/-!
# Composition of characters in internationalised names

Data of the Unicode standard, for the characters that the mapping table lets pass: which two
characters are written as one, and the order in which marks follow a letter. Syllables of Hangul are
composed by arithmetic and do not stand here.
-/
namespace SoapGateway.Idna

/-- Composed characters. An entry states the second part, and after a colon first parts, each with
the character that both make. -/
def compositeRows : List String :=
  ["300:61.e0.65.e8.69.ec.6e.1f9.6f.f2.75.f9.77.1e81.79.1ef3",
   "300:e2.1ea7.ea.1ec1.f4.1ed3.fc.1dc.103.1eb1.113.1e15.14d.1e51.1a1.1edd",
   "300:1b0.1eeb.3b1.1f70.3b5.1f72.3b7.1f74.3b9.1f76.3bf.1f78.3c5.1f7a.3c9.1f7c",
   "300:3ca.1fd2.3cb.1fe2.435.450.438.45d.1f00.1f02.1f01.1f03.1f10.1f12.1f11.1f13",
   "300:1f20.1f22.1f21.1f23.1f30.1f32.1f31.1f33.1f40.1f42.1f41.1f43.1f50.1f52.1f51.1f53",
   "300:1f60.1f62.1f61.1f63 301:61.e1.63.107.65.e9.67.1f5.69.ed.6b.1e31.6c.13a.6d.1e3f",
   "301:6e.144.6f.f3.70.1e55.72.155.73.15b.75.fa.77.1e83.79.fd",
   "301:7a.17a.e2.1ea5.e5.1fb.e6.1fd.e7.1e09.ea.1ebf.ef.1e2f.f4.1ed1",
   "301:f5.1e4d.f8.1ff.fc.1d8.103.1eaf.113.1e17.14d.1e53.169.1e79.1a1.1edb",
   "301:1b0.1ee9.3b1.3ac.3b5.3ad.3b7.3ae.3b9.3af.3bf.3cc.3c5.3cd.3c9.3ce",
   "301:3ca.390.3cb.3b0.433.453.43a.45c.1f00.1f04.1f01.1f05.1f10.1f14.1f11.1f15",
   "301:1f20.1f24.1f21.1f25.1f30.1f34.1f31.1f35.1f40.1f44.1f41.1f45.1f50.1f54.1f51.1f55",
   "301:1f60.1f64.1f61.1f65 302:61.e2.63.109.65.ea.67.11d.68.125.69.ee.6a.135.6f.f4",
   "302:73.15d.75.fb.77.175.79.177.7a.1e91.1ea1.1ead.1eb9.1ec7.1ecd.1ed9",
   "303:61.e3.65.1ebd.69.129.6e.f1.6f.f5.75.169.76.1e7d.79.1ef9",
   "303:e2.1eab.ea.1ec5.f4.1ed7.103.1eb5.1a1.1ee1.1b0.1eef",
   "304:61.101.65.113.67.1e21.69.12b.6f.14d.75.16b.79.233.e4.1df",
   "304:e6.1e3.f5.22d.f6.22b.fc.1d6.1eb.1ed.227.1e1.22f.231.3b1.1fb1",
   "304:3b9.1fd1.3c5.1fe1.438.4e3.443.4ef.1e37.1e39.1e5b.1e5d",
   "306:61.103.65.115.67.11f.69.12d.6f.14f.75.16d.229.1e1d.3b1.1fb0",
   "306:3b9.1fd0.3c5.1fe0.430.4d1.435.4d7.436.4c2.438.439.443.45e.1ea1.1eb7",
   "307:61.227.62.1e03.63.10b.64.1e0b.65.117.66.1e1f.67.121.68.1e23",
   "307:6d.1e41.6e.1e45.6f.22f.70.1e57.72.1e59.73.1e61.74.1e6b.77.1e87",
   "307:78.1e8b.79.1e8f.7a.17c.15b.1e65.161.1e67.1e63.1e69.105d2.105c9.105da.105e4",
   "308:61.e4.65.eb.68.1e27.69.ef.6f.f6.74.1e97.75.fc.77.1e85",
   "308:78.1e8d.79.ff.f5.1e4f.16b.1e7b.3b9.3ca.3c5.3cb.430.4d3.435.451",
   "308:436.4dd.437.4df.438.4e5.43e.4e7.443.4f1.447.4f5.44b.4f9.44d.4ed",
   "308:456.457.4d9.4db.4e9.4eb",
   "309:61.1ea3.65.1ebb.69.1ec9.6f.1ecf.75.1ee7.79.1ef7.e2.1ea9.ea.1ec3",
   "309:f4.1ed5.103.1eb3.1a1.1edf.1b0.1eed 30a:61.e5.75.16f.77.1e98.79.1e99",
   "30b:6f.151.75.171.443.4f3 30c:61.1ce.63.10d.64.10f.65.11b.67.1e7.68.21f.69.1d0.6a.1f0",
   "30c:6b.1e9.6c.13e.6e.148.6f.1d2.72.159.73.161.74.165.75.1d4 30c:7a.17e.fc.1da.292.1ef",
   "30f:61.201.65.205.69.209.6f.20d.72.211.75.215.475.477",
   "311:61.203.65.207.69.20b.6f.20f.72.213.75.217",
   "313:3b1.1f00.3b5.1f10.3b7.1f20.3b9.1f30.3bf.1f40.3c1.1fe4.3c5.1f50.3c9.1f60",
   "314:3b1.1f01.3b5.1f11.3b7.1f21.3b9.1f31.3bf.1f41.3c1.1fe5.3c5.1f51.3c9.1f61",
   "31b:6f.1a1.75.1b0 323:61.1ea1.62.1e05.64.1e0d.65.1eb9.68.1e25.69.1ecb.6b.1e33.6c.1e37",
   "323:6d.1e43.6e.1e47.6f.1ecd.72.1e5b.73.1e63.74.1e6d.75.1ee5.76.1e7f",
   "323:77.1e89.79.1ef5.7a.1e93.1a1.1ee3.1b0.1ef1 324:75.1e73 325:61.1e01 326:73.219.74.21b",
   "327:63.e7.64.1e11.65.229.67.123.68.1e29.6b.137.6c.13c.6e.146 327:72.157.73.15f.74.163",
   "328:61.105.65.119.69.12f.6f.1eb.75.173 32d:64.1e13.65.1e19.6c.1e3d.6e.1e4b.74.1e71.75.1e77",
   "32e:68.1e2b 330:65.1e1b.69.1e2d.75.1e75",
   "331:62.1e07.64.1e0f.68.1e96.6b.1e35.6c.1e3b.6e.1e49.72.1e5f.74.1e6f 331:7a.1e95",
   "338:3c.226e.3d.2260.3e.226f.2190.219a.2192.219b.2194.21ae.21d0.21cd.21d2.21cf",
   "338:21d4.21ce.2203.2204.2208.2209.220b.220c.2223.2224.2225.2226.223c.2241.2243.2244",
   "338:2245.2247.2248.2249.224d.226d.2261.2262.2264.2270.2265.2271.2272.2274.2273.2275",
   "338:2276.2278.2277.2279.227a.2280.227b.2281.227c.22e0.227d.22e1.2282.2284.2283.2285",
   "338:2286.2288.2287.2289.2291.22e2.2292.22e3.22a2.22ac.22a8.22ad.22a9.22ae.22ab.22af",
   "338:22b2.22ea.22b3.22eb.22b4.22ec.22b5.22ed",
   "342:3b1.1fb6.3b7.1fc6.3b9.1fd6.3c5.1fe6.3c9.1ff6.3ca.1fd7.3cb.1fe7.1f00.1f06",
   "342:1f01.1f07.1f20.1f26.1f21.1f27.1f30.1f36.1f31.1f37.1f50.1f56.1f51.1f57.1f60.1f66",
   "342:1f61.1f67 653:627.622 654:627.623.648.624.64a.626.6c1.6c2.6d2.6d3.6d5.6c0 655:627.625",
   "93c:928.929.930.931.933.934 9be:9c7.9cb 9d7:9c7.9cc b3e:b47.b4b b56:b47.b48 b57:b47.b4c",
   "bbe:bc6.bca.bc7.bcb bd7:b92.b94.bc6.bcc c56:c46.c48 cc2:cc6.cca cd5:cbf.cc0.cc6.cc7.cca.ccb",
   "cd6:cc6.cc8 d3e:d46.d4a.d47.d4b d57:d46.d4c dca:dd9.dda.ddc.ddd dcf:dd9.ddc ddf:dd9.dde",
   "102e:1025.1026",
   "1b35:1b05.1b06.1b07.1b08.1b09.1b0a.1b0b.1b0c.1b0d.1b0e.1b11.1b12.1b3a.1b3b.1b3c.1b3d",
   "1b35:1b3e.1b40.1b3f.1b41.1b42.1b43",
   "3099:3046.3094.304b.304c.304d.304e.304f.3050.3051.3052.3053.3054.3055.3056.3057.3058",
   "3099:3059.305a.305b.305c.305d.305e.305f.3060.3061.3062.3064.3065.3066.3067.3068.3069",
   "3099:306f.3070.3072.3073.3075.3076.3078.3079.307b.307c.309d.309e.30a6.30f4.30ab.30ac",
   "3099:30ad.30ae.30af.30b0.30b1.30b2.30b3.30b4.30b5.30b6.30b7.30b8.30b9.30ba.30bb.30bc",
   "3099:30bd.30be.30bf.30c0.30c1.30c2.30c4.30c5.30c6.30c7.30c8.30c9.30cf.30d0.30d2.30d3",
   "3099:30d5.30d6.30d8.30d9.30db.30dc.30ef.30f7.30f0.30f8.30f1.30f9.30f2.30fa.30fd.30fe",
   "309a:306f.3071.3072.3074.3075.3077.3078.307a.307b.307d.30cf.30d1.30d2.30d4.30d5.30d7",
   "309a:30d8.30da.30db.30dd 110ba:11099.1109a.1109b.1109c.110a5.110ab",
   "11127:11131.1112e.11132.1112f 1133e:11347.1134b 11357:11347.1134c 113b8:113c2.113c7",
   "113bb:11384.11385 113c2:1138b.1138e.113c2.113c5 113c9:11382.11383.11390.11391.113c2.113c8",
   "114b0:114b9.114bc 114ba:114b9.114bb 114bd:114b9.114be 115af:115b8.115ba.115b9.115bb",
   "11930:11935.11938 1611e:1611e.16121 1611f:1611e.16123.16121.16126.16122.16127.16129.16124",
   "16120:1611e.16125.16121.16128 16129:1611e.16122 16d67:16d63.16d69.16d67.16d68.16d69.16d6a"]

/-- The classes of marks: an entry states a code point and, after a colon, the class that holds from
there on. Class 0 is that of characters that are no marks, or marks that stay where they are. -/
def classRows : List String :=
  ["0:0 300:e6 315:e8 316:dc 31a:e8 31b:d8 31c:dc 321:ca 323:dc 327:ca 329:dc 334:1 339:dc",
   "33d:e6 347:dc 34a:e6 34d:dc 350:e6 353:dc 357:e6 358:e8 359:dc 35b:e6 35c:e9 35d:ea 35f:e9",
   "360:ea 362:e9 363:e6 371:0 483:e6 488:0 591:dc 592:e6 596:dc 597:e6 59a:de 59b:dc 59c:e6",
   "5a2:dc 5a8:e6 5aa:dc 5ab:e6 5ad:de 5ae:e4 5af:e6 5b0:a 5b1:b 5b2:c 5b3:d 5b4:e 5b5:f 5b6:10",
   "5b7:11 5b8:12 5b9:13 5bb:14 5bc:15 5bd:16 5be:0 5bf:17 5c0:0 5c1:18 5c2:19 5c3:0 5c4:e6",
   "5c5:dc 5c6:0 5c7:12 5d0:0 610:e6 618:1e 619:1f 61a:20 61b:0 64b:1b 64c:1c 64d:1d 64e:1e",
   "64f:1f 650:20 651:21 652:22 653:e6 655:dc 657:e6 65c:dc 65d:e6 65f:dc 660:0 670:23 671:0",
   "6d6:e6 6de:0 6df:e6 6e3:dc 6e4:e6 6e5:0 6e7:e6 6e9:0 6ea:dc 6eb:e6 6ed:dc 6ee:0 711:24 712:0",
   "730:e6 731:dc 732:e6 734:dc 735:e6 737:dc 73a:e6 73b:dc 73d:e6 73e:dc 73f:e6 742:dc 743:e6",
   "744:dc 745:e6 746:dc 747:e6 748:dc 749:e6 74d:0 7eb:e6 7f2:dc 7f3:e6 7f4:0 7fd:dc 7fe:0",
   "816:e6 81a:0 81b:e6 824:0 825:e6 828:0 829:e6 830:0 859:dc 85e:0 897:e6 899:dc 89c:e6 8a0:0",
   "8ca:e6 8cf:dc 8d4:e6 8e3:dc 8e4:e6 8e6:dc 8e7:e6 8e9:dc 8ea:e6 8ed:dc 8f0:1b 8f1:1c 8f2:1d",
   "8f3:e6 8f6:dc 8f7:e6 8f9:dc 8fb:e6 900:0 93c:7 93d:0 94d:9 94e:0 951:e6 952:dc 953:e6 955:0",
   "9bc:7 9bd:0 9cd:9 9ce:0 9fe:e6 a01:0 a3c:7 a3e:0 a4d:9 a51:0 abc:7 abd:0 acd:9 ad0:0 b3c:7",
   "b3d:0 b4d:9 b55:0 bcd:9 bd0:0 c3c:7 c3d:0 c4d:9 c55:54 c56:5b c58:0 cbc:7 cbd:0 ccd:9 cd5:0",
   "d3b:9 d3d:0 d4d:9 d4e:0 dca:9 dcf:0 e38:67 e3a:9 e3f:0 e48:6b e4c:0 eb8:76 eba:9 ebb:0",
   "ec8:7a ecc:0 f18:dc f1a:0 f35:dc f36:0 f37:dc f38:0 f39:d8 f3a:0 f71:81 f72:82 f74:84 f7a:82",
   "f7e:0 f80:82 f82:e6 f84:9 f85:0 f86:e6 f88:0 fc6:dc fc7:0 1037:7 1038:0 1039:9 103b:0",
   "108d:dc 108e:0 135d:e6 1360:0 1714:9 171f:0 1734:9 1735:0 17d2:9 17d3:0 17dd:e6 17e0:0",
   "18a9:e4 18aa:0 1939:de 193a:e6 193b:dc 1940:0 1a17:e6 1a18:dc 1a19:0 1a60:9 1a61:0 1a75:e6",
   "1a7f:dc 1a80:0 1ab0:e6 1ab5:dc 1abb:e6 1abd:dc 1abe:0 1abf:dc 1ac1:e6 1ac3:dc 1ac5:e6",
   "1aca:dc 1acb:e6 1add:dc 1ae0:e6 1ae6:dc 1ae7:e6 1aeb:ea 1b00:0 1b34:7 1b35:0 1b44:9 1b45:0",
   "1b6b:e6 1b6c:dc 1b6d:e6 1b74:0 1baa:9 1bac:0 1be6:7 1be7:0 1bf2:9 1bfc:0 1c37:7 1c3b:0",
   "1cd0:e6 1cd3:0 1cd4:1 1cd5:dc 1cda:e6 1cdc:dc 1ce0:e6 1ce1:0 1ce2:1 1ce9:0 1ced:dc 1cee:0",
   "1cf4:e6 1cf5:0 1cf8:e6 1cfa:0 1dc0:e6 1dc2:dc 1dc3:e6 1dca:dc 1dcb:e6 1dcd:ea 1dce:d6",
   "1dcf:dc 1dd0:ca 1dd1:e6 1df6:e8 1df7:e4 1df9:dc 1dfa:da 1dfb:e6 1dfc:e9 1dfd:dc 1dfe:e6",
   "1dff:dc 1e01:0 20d0:e6 20d2:1 20d4:e6 20d8:1 20db:e6 20dd:0 20e1:e6 20e2:0 20e5:1 20e7:e6",
   "20e8:dc 20e9:e6 20ea:1 20ec:dc 20f0:e6 2104:0 2cef:e6 2cf3:0 2d7f:9 2d80:0 2de0:e6 2e00:0",
   "302a:da 302b:e4 302c:e8 302d:de 302e:e0 3030:0 3099:8 309d:0 a66f:e6 a670:0 a674:e6 a67e:0",
   "a69e:e6 a6a0:0 a6f0:e6 a6f2:0 a806:9 a807:0 a82c:9 a830:0 a8c4:9 a8c5:0 a8e0:e6 a8f2:0",
   "a92b:dc a92e:0 a953:9 a95f:0 a9b3:7 a9b4:0 a9c0:9 a9c1:0 aab0:e6 aab1:0 aab2:e6 aab4:dc",
   "aab5:0 aab7:e6 aab9:0 aabe:e6 aac0:0 aac1:e6 aac2:0 aaf6:9 ab01:0 abed:9 abf0:0 fb1e:1a",
   "fbb2:0 fe20:e6 fe27:dc fe2e:e6 fe45:0 101fd:dc 10280:0 102e0:dc 102e1:0 10376:e6 10380:0",
   "10a0d:dc 10a0e:0 10a0f:e6 10a10:0 10a38:e6 10a39:1 10a3a:dc 10a3f:9 10a40:0 10ae5:e6",
   "10ae6:dc 10aeb:0 10d24:e6 10d30:0 10d69:e6 10d6e:0 10eab:e6 10ead:0 10efa:dc 10efc:0",
   "10efd:dc 10f00:0 10f46:dc 10f48:e6 10f4b:dc 10f4c:e6 10f4d:dc 10f51:0 10f82:e6 10f83:dc",
   "10f84:e6 10f85:dc 10f86:0 11046:9 11047:0 11070:9 11071:0 1107f:9 11080:0 110b9:9 110ba:7",
   "110bb:0 11100:e6 11103:0 11133:9 11136:0 11173:7 11174:0 111c0:9 111c1:0 111ca:7 111cb:0",
   "11235:9 11236:7 11237:0 112e9:7 112ea:9 112f0:0 1133b:7 1133d:0 1134d:9 11350:0 11366:e6",
   "11380:0 113ce:9 113d1:0 11442:9 11443:0 11446:7 11447:0 1145e:e6 1145f:0 114c2:9 114c3:7",
   "114c4:0 115bf:9 115c0:7 115c1:0 1163f:9 11640:0 116b6:9 116b7:7 116b8:0 1172b:9 11730:0",
   "11839:9 1183a:7 1183b:0 1193d:9 1193f:0 11943:7 11944:0 119e0:9 119e1:0 11a34:9 11a35:0",
   "11a47:9 11a50:0 11a99:9 11a9a:0 11c3f:9 11c40:0 11d42:7 11d43:0 11d44:9 11d46:0 11d97:9",
   "11d98:0 11f41:9 11f43:0 1612f:9 16130:0 16af0:1 16af5:0 16b30:e6 16b37:0 16ff0:6 16ff2:0",
   "1bc9e:1 1bc9f:0 1d165:d8 1d167:1 1d16a:0 1d16d:e2 1d16e:d8 1d17b:dc 1d183:0 1d185:e6",
   "1d18a:dc 1d18c:0 1d1aa:e6 1d1ae:0 1d242:e6 1d245:0 1e000:e6 1e100:0 1e130:e6 1e137:0",
   "1e2ae:e6 1e2c0:0 1e2ec:e6 1e2f0:0 1e4ec:e8 1e4ee:dc 1e4ef:e6 1e4f0:0 1e5ee:e6 1e5ef:dc",
   "1e5f0:0 1e6e3:e6 1e6e4:0 1e6e6:e6 1e6e7:0 1e6ee:e6 1e6f0:0 1e6f5:e6 1e6fe:0 1e8d0:dc 1e922:0",
   "1e944:e6 1e94a:7 1e94b:0"]

end SoapGateway.Idna

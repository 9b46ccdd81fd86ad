/-!
# The mapping table of internationalised names

Data of Unicode Technical Standard 46: what becomes of each code point of a domain name. The rows
list runs of consecutive code points from U+0000 on, each as a letter and the hexadecimal length of
the run. In a run of `v` all code points are valid, in one of `x` they are refused, in one of `i`
they are dropped. In a run of `a`, every other code point is replaced by the next one. In a run of
`s` they are shifted by a number, up after a colon and down after a semicolon; in a run of `c` each
is replaced by the code points listed.
-/
namespace SoapGateway.Idna

def mappingRows : List String :=
  ["v41 s1a:20 v25 x20 s1;80 v7 c1:20.308 v1 s1;49 v2 i1 v1 c1:20.304 v2 s2;80 c1:20.301",
   "s1:307 v2 c1:20.327 s1;88 s1;4b v1 c1:31.2044.34 c1:31.2044.32 c1:33.2044.34 v1 s17:20 v1",
   "s7:20 v21 a30 c1:69.307 v1 c2:69.6a a4 v1 a6 c2:6c.b7 a8 c1:2bc.6e a2e s1;79 a6 s1;10c v1",
   "s1:d2 a4 s1:ce s1:1 v1 s2:cd s1:1 v2 s1:4f s1:ca s1:cb s1:1 v1 s1:cd s1:cf v1 s1:d3 s1:d1",
   "s1:1 v3 s1:d3 s1:d5 v1 s1:d6 a6 s1:da s1:1 v1 s1:da v2 s1:1 v1 s1:da s1:1 v1 s2:d9 a4",
   "s1:db s1:1 v3 s1:1 v7 c3:64.17e c3:6c.6a c3:6e.6a a10 v1 a12 v1 c3:64.7a s1:1 v1 s1;61",
   "s1;38 a28 s1;82 v1 a12 v6 s1:2a2b s1:1 v1 s1;a3 s1:2a28 v2 s1:1 v1 s1;c3 s1:45 s1:47 aa",
   "v60 s1;248 s1;4b s1;248 s1;241 s1;3b s1;3a s1;35 s1;240 s1;23f v1f c1:20.306 c1:20.307",
   "c1:20.30a c1:20.328 c1:20.303 c1:20.30b v2 s1;7d s1;275 s1;26f s1;26b s1;4f v5b s2;40 v1",
   "s1;30 c1:308.301 s1:74 v9 i1 v20 a4 s1;bb v1 s1:1 v1 x2 c1:20.3b9 v3 s1;343 s1:74 x4",
   "c1:20.301 c1:20.308.301 s1:26 s1;2d0 s3:25 x1 s1:40 x1 s2:3f v1 s11:20 x1 s9:20 v23 s1:8",
   "s1;1e s1;19 s1;d s1;6 s1;9 s1;f s1;16 v1 a18 s1;36 s1;30 s1;2f v1 s1;3c s1;40 v1 s1:1 v1",
   "s1;36 s1:1 v2 s3;82 s10:50 s20:20 v30 a22 v8 a36 s1:f ae v1 a60 x1 s26:30 x2 v2e",
   "c1:565.582 v3 x2 v3 x1 v37 x8 v1b x4 v6 x11 v16 x1 v58 c1:627.674 c1:648.674 c1:6c7.674",
   "c1:64a.674 v64 x1 v30 x2 v3b x2 v65 xe v3b x2 v31 x2 vf x1 v1c x2 v1 x1 vb x5 v20 x7 v4b",
   "x1 v75 c1:915.93c c1:916.93c c1:917.93c c1:91c.93c c1:921.93c c1:922.93c c1:92b.93c",
   "c1:92f.93c v24 x1 v8 x2 v2 x2 v16 x1 v7 x1 v1 x3 v4 x2 v9 x2 v2 x2 v4 x8 v1 x4 c1:9a1.9bc",
   "c1:9a2.9bc x1 c1:9af.9bc v4 x2 v19 x2 v3 x1 v6 x4 v2 x2 v16 x1 v7 x1 v1 c1:a32.a3c x1 v1",
   "c1:a38.a3c x1 v2 x2 v1 x1 v5 x4 v2 x2 v3 x3 v1 x7 c1:a16.a3c c1:a17.a3c c1:a1c.a3c v1 x1",
   "c1:a2b.a3c x7 v11 xa v3 x1 v9 x1 v3 x1 v16 x1 v7 x1 v2 x1 v5 x2 va x1 v3 x1 v3 x2 v1 xf v4",
   "x2 vc x7 v7 x1 v3 x1 v8 x2 v2 x2 v16 x1 v7 x1 v2 x1 v5 x2 v9 x2 v2 x2 v3 x7 v3 x4",
   "c1:b21.b3c c1:b22.b3c x1 v5 x2 v12 xa v2 x1 v6 x3 v3 x1 v4 x3 v2 x1 v1 x1 v2 x3 v2 x3 v3",
   "x3 vc x4 v5 x3 v3 x1 v4 x2 v1 x6 v1 xe v15 x5 vd x1 v3 x1 v17 x1 v10 x2 v9 x1 v3 x1 v4 x7",
   "v2 x1 v3 x1 v2 x2 v4 x2 va x7 v16 x1 v3 x1 v17 x1 va x1 v5 x2 v9 x1 v3 x1 v4 x7 v2 x5 v3",
   "x1 v4 x2 va x1 v3 xc vd x1 v3 x1 v33 x1 v3 x1 v6 x4 v10 x2 v1a x1 v3 x1 v12 x3 v18 x1 v9",
   "x1 v1 x2 v7 x3 v1 x4 v6 x1 v1 x1 v8 x6 va x2 v3 xc v32 c1:e4d.e32 v7 x4 v1d x25 v2 x1 v1",
   "x1 v5 x1 v18 x1 v1 x1 vc c1:ecd.eb2 va x2 v5 x1 v1 x1 v7 x1 va x2 c1:eab.e99 c1:eab.ea1 v2",
   "x20 vc s1;1 v36 c1:f42.fb7 v4 x1 v4 c1:f4c.fb7 v4 c1:f51.fb7 v4 c1:f56.fb7 v4 c1:f5b.fb7",
   "vc c1:f40.fb5 v3 x4 v2 c1:f71.f72 v1 c1:f71.f74 c1:fb2.f80 c1:fb2.f71.f80 c1:fb3.f80",
   "c1:fb3.f71.f80 v7 c1:f71.f80 v11 c1:f92.fb7 v4 x1 v4 c1:f9c.fb7 v4 c1:fa1.fb7 v4",
   "c1:fa6.fb7 v4 c1:fab.fb7 vc c1:f90.fb5 v3 x1 vf x1 vd x25 va0 s26:1c60 x1 s1:1c60 x5",
   "s1:1c60 x2 v2c s1;20 v62 i2 ve8 x1 v4 x2 v7 x1 v1 x1 v4 x2 v29 x1 v4 x2 v21 x1 v4 x2 v7 x1",
   "v1 x1 v4 x2 vf x1 v39 x1 v4 x2 v43 x2 v20 x3 v1a x6 v56 x2 s6;8 x2 v280 x1 v1c x3 v59 x7",
   "v16 x9 v18 x9 v14 xc vd x1 v3 x1 v2 xc v34 i2 v28 x2 va x6 va x6 vb i5 va x6 v59 x7 v2b x5",
   "v46 xa v1f x1 vc x4 vc x4 v1 x3 v2a x2 v5 xb v2c x4 v1a x6 vb x3 v3e x2 v41 x1 v1d x2 vb",
   "x6 va x6 ve x2 v2e x2 vc x14 v4d x1 va6 x8 v3c x3 vf x3 v33 s1;184e s1;184d s1;1844",
   "s2;1842 s1;1843 s1;183c s1;1824 s1:89c3 s1:1 v1 x5 s2b;bc0 x2 s3;bc0 v8 x8 v2b x5 v2c",
   "s1;1ccb s1;1c47 s1;1ccc v1 s2;1ccc s1;1b55 s8;1ccc v1 s1;1ccd s1;1b1a s1;1cce s1;1ccd",
   "s2;1ccc s1;1ccb s1;1ce2 s2;1af4 s1;44 s1;1ce5 s2;1ce4 s1;1af1 s2;1af0 s1;1ce6 v1 s1;1ce4",
   "s1;1ce3 s1;1c06 s1;1ce3 s1;1aff s2;3e s1;1ce6 s2;1ce3 s1;3c s1;1aeb s1;1ce5 s1;37 s3;19ab",
   "s2;199a s1;1cf9 s1;1cf1 s2;1cef s2;19b4 s1;19a7 s2;19a3 vd s1;193b v22 s1;1b49 s1;1d39",
   "s1;1b48 s1;1cae s1;1b43 s1;1d3a s1;1b42 s1;1b41 s1;1b3e s3;1b3c s1;2c s1;1b0b s1;1b3c",
   "s1;25 s1;1b0c s1;1b3b s1;1b3d s4;1b3c s1;1b3a s2;1b31 s1;1c0a s2;1b2d s1;9c s2;1b2e",
   "s1;1d41 s3;1b2c s1;1a07 v40 a96 v4 c1:61.2be s1;3a v2 s1;1dbf v1 a60 v8 s8;8 v6 x2 s6;8 x2",
   "v8 s8;8 v8 s8;8 v6 x2 s6;8 x2 v8 x1 s1;8 x1 s1;8 x1 s1;8 x1 s1;8 v8 s8;8 v1 s1;1bc5 v1",
   "s1;1bc6 v1 s1;1bc7 v1 s1;1bc8 v1 s1;1bad v1 s1;1bae v1 s1;1baf x2 c1:1f00.3b9 c1:1f01.3b9",
   "c1:1f02.3b9 c1:1f03.3b9 c1:1f04.3b9 c1:1f05.3b9 c1:1f06.3b9 c1:1f07.3b9 c1:1f00.3b9",
   "c1:1f01.3b9 c1:1f02.3b9 c1:1f03.3b9 c1:1f04.3b9 c1:1f05.3b9 c1:1f06.3b9 c1:1f07.3b9",
   "c1:1f20.3b9 c1:1f21.3b9 c1:1f22.3b9 c1:1f23.3b9 c1:1f24.3b9 c1:1f25.3b9 c1:1f26.3b9",
   "c1:1f27.3b9 c1:1f20.3b9 c1:1f21.3b9 c1:1f22.3b9 c1:1f23.3b9 c1:1f24.3b9 c1:1f25.3b9",
   "c1:1f26.3b9 c1:1f27.3b9 c1:1f60.3b9 c1:1f61.3b9 c1:1f62.3b9 c1:1f63.3b9 c1:1f64.3b9",
   "c1:1f65.3b9 c1:1f66.3b9 c1:1f67.3b9 c1:1f60.3b9 c1:1f61.3b9 c1:1f62.3b9 c1:1f63.3b9",
   "c1:1f64.3b9 c1:1f65.3b9 c1:1f66.3b9 c1:1f67.3b9 v2 c1:1f70.3b9 c1:3b1.3b9 c1:3ac.3b9 x1 v1",
   "c1:1fb6.3b9 s2;8 s1;4a s1;1c0f c1:3b1.3b9 c1:20.313 s1;1c05 c1:20.313 c1:20.342",
   "c1:20.308.342 c1:1f74.3b9 c1:3b7.3b9 c1:3ae.3b9 x1 v1 c1:1fc6.3b9 s1;56 s1;1c1c s1;56",
   "s1;1c1d c1:3b7.3b9 c1:20.313.300 c1:20.313.301 c1:20.313.342 v3 s1;1c43 x2 v2 s2;8 s1;64",
   "s1;1c2c x1 c1:20.314.300 c1:20.314.301 c1:20.314.342 v3 s1;1c33 v4 s2;8 s1;70 s1;1c1e s1;7",
   "c1:20.308.300 c1:20.308.301 s1;1f8f x2 c1:1f7c.3b9 c1:3c9.3b9 c1:3ce.3b9 x1 v1 c1:1ff6.3b9",
   "s1;80 s1;1c2d s1;7e s1;1c2d c1:3c9.3b9 c1:20.301 c1:20.314 x1 cb:20 i1 v2 x2 v1 s1;1 v5",
   "c1:20.333 vc x3 v1 x7 s1;200f v3 c1:2032.2032 c1:2032.2032.2032 v1 c1:2035.2035",
   "c1:2035.2035.2035 v4 c1:21.21 v1 c1:20.305 v8 c1:3f.3f c1:3f.21 c1:21.3f vd",
   "c1:2032.2032.2032.2032 v7 s1;203f i5 x5 i6 s1;2040 s1;2008 x2 s6;2040 s1;204f s1:197",
   "s1;203f s2;2055 s1;2011 sa;2050 s1;205f s1:187 s1;204f s2;2065 x1 s1;202f s1;202c s1;2023",
   "s1;201b s1;1e3b s1;202d s4;202b s1;202a s2;2028 x3 v8 c1:72.73 v19 xe v21 xf c1:61.2f.63",
   "c1:61.2f.73 s1;209f c1:b0.63 v1 c1:63.2f.6f c1:63.2f.75 s1;1eac v1 c1:b0.66 s2;20a3 c3:68",
   "s1;1fe8 c2:69 c2:6c v1 s1;20a7 c1:6e.6f v2 s3;20a9 c2:72 v2 c1:73.6d c1:74.65.6c c1:74.6d",
   "v1 s1;20aa v1 s1;1d5d v1 s1;20ae v1 s1;20bf s1;2046 s2;20ca v1 c2:65 s1;20cb s1:1c s1;20c6",
   "s1;20c5 s4;1b65 s1;20d0 v1 c1:66.61.78 s1;1d7c c2:3b3 s1;1d7f s1:d1 v4 c2:64 s1;20e2",
   "s2;20df v6 c1:31.2044.37 c1:31.2044.39 c1:31.2044.31.30 c1:31.2044.33 c1:32.2044.33",
   "c1:31.2044.35 c1:32.2044.35 c1:33.2044.35 c1:34.2044.35 c1:31.2044.36 c1:35.2044.36",
   "c1:31.2044.38 c1:33.2044.38 c1:35.2044.38 c1:37.2044.38 c1:31.2044 s1;20f7 c1:69.69",
   "c1:69.69.69 c1:69.76 s1;20ee c1:76.69 c1:76.69.69 c1:76.69.69.69 c1:69.78 s1;20f1 c1:78.69",
   "c1:78.69.69 s1;2100 s2;210a s1;2102 s1;2107 c1:69.69 c1:69.69.69 c1:69.76 s1;20fe c1:76.69",
   "c1:76.69.69 c1:76.69.69.69 c1:69.78 s1;2101 c1:78.69 c1:78.69.69 s1;2110 s2;211a s1;2112",
   "v3 s1:1 v5 c1:30.2044.33 v2 x4 v9c c1:222b.222b c1:222b.222b.222b v1 c1:222e.222e",
   "c1:222e.222e.222e vf8 s2:cdf vff x16 vb x15 s9;242f c1:31.30 c1:31.31 c1:31.32 c1:31.33",
   "c1:31.34 c1:31.35 c1:31.36 c1:31.37 c1:31.38 c1:31.39 c1:32.30 c1:28.31.29 c1:28.32.29",
   "c1:28.33.29 c1:28.34.29 c1:28.35.29 c1:28.36.29 c1:28.37.29 c1:28.38.29 c1:28.39.29",
   "c1:28.31.30.29 c1:28.31.31.29 c1:28.31.32.29 c1:28.31.33.29 c1:28.31.34.29 c1:28.31.35.29",
   "c1:28.31.36.29 c1:28.31.37.29 c1:28.31.38.29 c1:28.31.39.29 c1:28.32.30.29 x14 c1:28.61.29",
   "c1:28.62.29 c1:28.63.29 c1:28.64.29 c1:28.65.29 c1:28.66.29 c1:28.67.29 c1:28.68.29",
   "c1:28.69.29 c1:28.6a.29 c1:28.6b.29 c1:28.6c.29 c1:28.6d.29 c1:28.6e.29 c1:28.6f.29",
   "c1:28.70.29 c1:28.71.29 c1:28.72.29 c1:28.73.29 c1:28.74.29 c1:28.75.29 c1:28.76.29",
   "c1:28.77.29 c1:28.78.29 c1:28.79.29 c1:28.7a.29 s1a;2455 s1a;246f s1;24ba v521",
   "c1:222b.222b.222b.222b v67 c1:3a.3a.3d c1:3d.3d c1:3d.3d.3d v65 c1:2add.338 v97 x2 v8a",
   "s30:30 v30 s1:1 v1 s1;29f7 s1;ee6 s1;29e7 v2 a6 s1;2a1c s1;29fd s1;2a1f s1;2a1e v1 s1:1 v2",
   "s1:1 v6 s1;2c12 s1;2c07 s2;2a3f a64 v7 a4 v3 s1:1 v1 x5 v2d x1 v1 x5 v1 x2 v38 x7 s1;e v1",
   "xe v18 x9 v7 x1 v7 x1 v7 x1 v7 x1 v7 x1 v7 x1 v7 x1 v7 x1 v7e x22 v1a x1 v4 s1:3d2e v53",
   "s1:70ac xc s1:1f00 s1:1f27 s1:1f34 s1:1f3c s1:1f55 s1:1f80 s1:1f86 s1:1f99 s1:1fb2 s1:2236",
   "s1:225b s1:2260 s1:2276 s1:2289 s1:229d s1:22d1 s1:22e5 s1:22ef s1:2389 s1:23e6 s1:2401",
   "s1:2405 s1:2422 s1:242a s1:2444 s1:2450 s1:2468 s1:249b s1:24ac s1:24c6 s1:27b9 s1:2800",
   "s1:29cb s1:29e1 s1:29e8 s1:29f2 s1:2a03 s1:2a4e s1:2c2a s1:2c59 s1:2cd0 s1:2ce6 s1:2cf8",
   "s1:2d0d s1:2d42 s1:2d44 s1:2ead s1:2eb6 s1:2ec1 s1:2ecd s1:2f40 s1:2f47 s1:2f4b s1:2fbf",
   "s1:2fc8 s1:2fd4 s1:2fdb s1:3017 s1:3027 s1:3038 s1:3087 s1:32cb s1:32f8 s1:330c s1:35ef",
   "s1:35f3 s1:3645 s1:3654 s1:3660 s1:3674 s1:369a s1:369e s1:37a8 s1:37bf s1:37de s1:3bd5",
   "s1:3c16 s1:3c2c s1:3c65 s1:3c7c s1:3c84 s1:3c8a s1:3cbd s1:3cc1 s1:3ce0 s1:4116 s1:42d4",
   "s1:42df s1:42e3 s1:42e6 s1:42ed s1:42fe s1:42ff s1:434f s1:4426 s1:442a s1:457c s1:4585",
   "s1:45b6 s1:45bc s1:45c4 s1:45cb s1:4625 s1:462b s1:470e s1:4714 s1:4744 s1:4754 s1:4782",
   "s1:486e s1:4874 s1:4884 s1:49ca s1:4a47 s1:4a4c s1:4b01 s1:4b57 s1:4b84 s1:4cfd s1:4d81",
   "s1:4fbe s1:4fd8 s1:5010 s1:5042 s1:5085 s1:508f s1:5094 s1:50b4 s1:50ff s1:5108 s1:5261",
   "s1:5267 s1:526f s1:5277 s1:5286 s1:5294 s1:5297 s1:52e5 s1:52e8 s1:52ed s1:56c1 s1:56de",
   "s1:58b2 s1:58bd s1:58d3 s1:59ed s1:59f9 s1:5a3f s1:5a6c s1:5ca2 s1:5cb0 s1:5cbe s1:5ce0",
   "s1:5d04 s1:5dca s1:5dd5 s1:5e17 s1:5f0e s1:5f2c s1:5ffc s1:6010 s1:6014 s1:60ef s1:61a6",
   "s1:6222 s1:6227 s1:622b s1:65d0 s1:65d8 s1:6673 s1:670c s1:670e s1:673c s1:67a4 s1:67b0",
   "s1:67b3 s1:67b9 s1:681a s1:683b s1:6840 s1:684d s1:68f3 s1:6925 s1:6928 s1:69de s1:69e0",
   "s1:69f2 s1:6aed s1:6b1c s1:6b22 s1:6b67 s1:6b70 s1:6b72 s1:6b7b s1:6b98 s1:6d22 s1:6eb1",
   "s1:6eba s1:6edf s1:6ef4 s1:6efb s1:6f04 s1:6f07 s1:6f2e s1:6f31 s1:6f41 s1:6f45 s1:6f51",
   "s1:6f6b s1:6f79 s1:6f80 s1:6fba s1:6fc8 s1:6fcb x2a s1;2fe0 v1 s1;2fd4 v33 s1;24 v1",
   "s1:2309 s2:230b v5 x1 v56 x2 v2 c1:20.3099 c1:20.309a v2 c1:3088.308a v5f c1:30b3.30c8 x5",
   "v2b x1 s2;2031 s1;1f89 s1;2032 s2;1f89 s3;2034 s6;1f8a s1;2026 s3;203b s1;2023 sa;203c",
   "s15;1fee i1 s2;2051 s2;1fa0 s1;1f9d s1;1f9c s1;1f98 s1;1f95 s1;1f94 s1;2052 s1;1f92",
   "s1;1f91 s2;2054 s1;2053 s2;2052 s1;204f s1;204e s5;204d s1;204b s1;2048 s1;203f s1;2039",
   "s1;2035 s2;1f91 s3;202d s2;2003 s1;2001 s2;1ff9 s1;1ff8 s1;1fef s1;1fed x1 v2 s1:1c6e",
   "s1:1cf9 s1:1c75 s1:2546 s1:1c74 s1:1c96 s1:1c73 s1:4399 s1:1cbf s1:1c7e s1:1c65 s1:278c",
   "s1:2592 s1:1d1b v46 xa v10 c1:28.1100.29 c1:28.1102.29 c1:28.1103.29 c1:28.1105.29",
   "c1:28.1106.29 c1:28.1107.29 c1:28.1109.29 c1:28.110b.29 c1:28.110c.29 c1:28.110e.29",
   "c1:28.110f.29 c1:28.1110.29 c1:28.1111.29 c1:28.1112.29 c1:28.ac00.29 c1:28.b098.29",
   "c1:28.b2e4.29 c1:28.b77c.29 c1:28.b9c8.29 c1:28.bc14.29 c1:28.c0ac.29 c1:28.c544.29",
   "c1:28.c790.29 c1:28.cc28.29 c1:28.ce74.29 c1:28.d0c0.29 c1:28.d30c.29 c1:28.d558.29",
   "c1:28.c8fc.29 c1:28.c624.c804.29 c1:28.c624.d6c4.29 x1 c1:28.4e00.29 c1:28.4e8c.29",
   "c1:28.4e09.29 c1:28.56db.29 c1:28.4e94.29 c1:28.516d.29 c1:28.4e03.29 c1:28.516b.29",
   "c1:28.4e5d.29 c1:28.5341.29 c1:28.6708.29 c1:28.706b.29 c1:28.6c34.29 c1:28.6728.29",
   "c1:28.91d1.29 c1:28.571f.29 c1:28.65e5.29 c1:28.682a.29 c1:28.6709.29 c1:28.793e.29",
   "c1:28.540d.29 c1:28.7279.29 c1:28.8ca1.29 c1:28.795d.29 c1:28.52b4.29 c1:28.4ee3.29",
   "c1:28.547c.29 c1:28.5b66.29 c1:28.76e3.29 c1:28.4f01.29 c1:28.8cc7.29 c1:28.5354.29",
   "c1:28.796d.29 c1:28.4f11.29 c1:28.81ea.29 c1:28.81f3.29 s1:230b s1:2c37 s1:3341 s1:4948 v8",
   "c1:70.74.65 c1:32.31 c1:32.32 c1:32.33 c1:32.34 c1:32.35 c1:32.36 c1:32.37 c1:32.38",
   "c1:32.39 c1:33.30 c1:33.31 c1:33.32 c1:33.33 c1:33.34 c1:33.35 s1;2160 s2;215f s3;215e",
   "s1;215d s2;215c s5;215b s1:7992 s1:7e29 s1:8074 s1:850b s1:8756 s1:89a1 s1:8e38 s1:92cf",
   "s1:951a s1:99b1 s1:9bfc s1:9e47 s1:a092 s1:a2dd c1:cc38.ace0 c1:c8fc.c758 s1:9432 v1",
   "s1:1b80 s1:1c0b s1:1b87 s1:2458 s1:1c10 s1:1ee8 s1:1b7d s1:1ee4 s1:1bd5 s1:20b8 s1:347e",
   "s1:3de0 s1:39a8 s1:349b s1:5f43 s1:2490 s1:3355 s1:3599 s1:3477 s1:46ab s1:2179 s1:3fe4",
   "s1:5a0b s1:46c6 s1:201c s1:473f s1:429d s1:26d8 s1:5dcd s1:1e8d s1:20d2 s1:3a49 s1:6565",
   "s1:1c70 s1:1ef7 s1:38c0 s1:1b66 s1:1b88 s1:1b65 s1:2b3f s1:214b s1:2092 s1:28ed s1:28bb",
   "s1:4437 s1:1c54 s1:5a19 s1:20a5 s1:266c c1:33.36 c1:33.37 c1:33.38 c1:33.39 c1:34.30",
   "c1:34.31 c1:34.32 c1:34.33 c1:34.34 c1:34.35 c1:34.36 c1:34.37 c1:34.38 c1:34.39 c1:35.30",
   "c1:31.6708 c1:32.6708 c1:33.6708 c1:34.6708 c1:35.6708 c1:36.6708 c1:37.6708 c1:38.6708",
   "c1:39.6708 c1:31.30.6708 c1:31.31.6708 c1:31.32.6708 c1:68.67 c1:65.72.67 c1:65.76",
   "c1:6c.74.64 s1;22e s1;22d s1;22c s1;22b s2;22a s1;229 s1;228 s1;227 s1;226 s1;225 s1;224",
   "s1;223 s1;222 s1;221 s1;220 s1;21f s1;21d s1;21c s1;21b s6;21a s1;218 s1;216 s1;214 s1;212",
   "s5;210 s1;20f s1;20e s6;20d s4;20c c1:4ee4.548c c1:30a2.30d1.30fc.30c8",
   "c1:30a2.30eb.30d5.30a1 c1:30a2.30f3.30da.30a2 c1:30a2.30fc.30eb c1:30a4.30cb.30f3.30b0",
   "c1:30a4.30f3.30c1 c1:30a6.30a9.30f3 c1:30a8.30b9.30af.30fc.30c9 c1:30a8.30fc.30ab.30fc",
   "c1:30aa.30f3.30b9 c1:30aa.30fc.30e0 c1:30ab.30a4.30ea c1:30ab.30e9.30c3.30c8",
   "c1:30ab.30ed.30ea.30fc c1:30ac.30ed.30f3 c1:30ac.30f3.30de c1:30ae.30ac c1:30ae.30cb.30fc",
   "c1:30ad.30e5.30ea.30fc c1:30ae.30eb.30c0.30fc c1:30ad.30ed c1:30ad.30ed.30b0.30e9.30e0",
   "c1:30ad.30ed.30e1.30fc.30c8.30eb c1:30ad.30ed.30ef.30c3.30c8 c1:30b0.30e9.30e0",
   "c1:30b0.30e9.30e0.30c8.30f3 c1:30af.30eb.30bc.30a4.30ed c1:30af.30ed.30fc.30cd",
   "c1:30b1.30fc.30b9 c1:30b3.30eb.30ca c1:30b3.30fc.30dd c1:30b5.30a4.30af.30eb",
   "c1:30b5.30f3.30c1.30fc.30e0 c1:30b7.30ea.30f3.30b0 c1:30bb.30f3.30c1 c1:30bb.30f3.30c8",
   "c1:30c0.30fc.30b9 c1:30c7.30b7 c1:30c9.30eb c1:30c8.30f3 c1:30ca.30ce c1:30ce.30c3.30c8",
   "c1:30cf.30a4.30c4 c1:30d1.30fc.30bb.30f3.30c8 c1:30d1.30fc.30c4 c1:30d0.30fc.30ec.30eb",
   "c1:30d4.30a2.30b9.30c8.30eb c1:30d4.30af.30eb c1:30d4.30b3 c1:30d3.30eb",
   "c1:30d5.30a1.30e9.30c3.30c9 c1:30d5.30a3.30fc.30c8 c1:30d6.30c3.30b7.30a7.30eb",
   "c1:30d5.30e9.30f3 c1:30d8.30af.30bf.30fc.30eb c1:30da.30bd c1:30da.30cb.30d2",
   "c1:30d8.30eb.30c4 c1:30da.30f3.30b9 c1:30da.30fc.30b8 c1:30d9.30fc.30bf",
   "c1:30dd.30a4.30f3.30c8 c1:30dc.30eb.30c8 c1:30db.30f3 c1:30dd.30f3.30c9 c1:30db.30fc.30eb",
   "c1:30db.30fc.30f3 c1:30de.30a4.30af.30ed c1:30de.30a4.30eb c1:30de.30c3.30cf",
   "c1:30de.30eb.30af c1:30de.30f3.30b7.30e7.30f3 c1:30df.30af.30ed.30f3 c1:30df.30ea",
   "c1:30df.30ea.30d0.30fc.30eb c1:30e1.30ac c1:30e1.30ac.30c8.30f3 c1:30e1.30fc.30c8.30eb",
   "c1:30e4.30fc.30c9 c1:30e4.30fc.30eb c1:30e6.30a2.30f3 c1:30ea.30c3.30c8.30eb c1:30ea.30e9",
   "c1:30eb.30d4.30fc c1:30eb.30fc.30d6.30eb c1:30ec.30e0 c1:30ec.30f3.30c8.30b2.30f3",
   "c1:30ef.30c3.30c8 c1:30.70b9 c1:31.70b9 c1:32.70b9 c1:33.70b9 c1:34.70b9 c1:35.70b9",
   "c1:36.70b9 c1:37.70b9 c1:38.70b9 c1:39.70b9 c1:31.30.70b9 c1:31.31.70b9 c1:31.32.70b9",
   "c1:31.33.70b9 c1:31.34.70b9 c1:31.35.70b9 c1:31.36.70b9 c1:31.37.70b9 c1:31.38.70b9",
   "c1:31.39.70b9 c1:32.30.70b9 c1:32.31.70b9 c1:32.32.70b9 c1:32.33.70b9 c1:32.34.70b9",
   "c1:68.70.61 c1:64.61 c1:61.75 c1:62.61.72 c1:6f.76 c1:70.63 c1:64.6d c1:64.6d.32",
   "c1:64.6d.33 c1:69.75 c1:5e73.6210 c1:662d.548c c1:5927.6b63 c1:660e.6cbb",
   "c1:682a.5f0f.4f1a.793e c1:70.61 c1:6e.61 c1:3bc.61 c1:6d.61 c1:6b.61 c1:6b.62 c1:6d.62",
   "c1:67.62 c1:63.61.6c c1:6b.63.61.6c c1:70.66 c1:6e.66 c1:3bc.66 c1:3bc.67 c1:6d.67",
   "c1:6b.67 c1:68.7a c1:6b.68.7a c1:6d.68.7a c1:67.68.7a c1:74.68.7a c1:3bc.6c c1:6d.6c",
   "c1:64.6c c1:6b.6c c1:66.6d c1:6e.6d c1:3bc.6d c1:6d.6d c1:63.6d c1:6b.6d c1:6d.6d.32",
   "c1:63.6d.32 c1:6d.32 c1:6b.6d.32 c1:6d.6d.33 c1:63.6d.33 c1:6d.33 c1:6b.6d.33",
   "c1:6d.2215.73 c1:6d.2215.73.32 c1:70.61 c1:6b.70.61 c1:6d.70.61 c1:67.70.61 c1:72.61.64",
   "c1:72.61.64.2215.73 c1:72.61.64.2215.73.32 c1:70.73 c1:6e.73 c1:3bc.73 c1:6d.73 c1:70.76",
   "c1:6e.76 c1:3bc.76 c1:6d.76 c1:6b.76 c1:6d.76 c1:70.77 c1:6e.77 c1:3bc.77 c1:6d.77",
   "c1:6b.77 c1:6d.77 c1:6b.3c9 c1:6d.3c9 x1 c1:62.71 c1:63.63 c1:63.64 c1:63.2215.6b.67 x1",
   "c1:64.62 c1:67.79 c1:68.61 c1:68.70 c1:69.6e c1:6b.6b c1:6b.6d c1:6b.74 c1:6c.6d c1:6c.6e",
   "c1:6c.6f.67 c1:6c.78 c1:6d.62 c1:6d.69.6c c1:6d.6f.6c c1:70.68 x1 c1:70.70.6d c1:70.72",
   "c1:73.72 c1:73.76 c1:77.62 c1:76.2215.6d c1:61.2215.6d c1:31.65e5 c1:32.65e5 c1:33.65e5",
   "c1:34.65e5 c1:35.65e5 c1:36.65e5 c1:37.65e5 c1:38.65e5 c1:39.65e5 c1:31.30.65e5",
   "c1:31.31.65e5 c1:31.32.65e5 c1:31.33.65e5 c1:31.34.65e5 c1:31.35.65e5 c1:31.36.65e5",
   "c1:31.37.65e5 c1:31.38.65e5 c1:31.39.65e5 c1:32.30.65e5 c1:32.31.65e5 c1:32.32.65e5",
   "c1:32.33.65e5 c1:32.34.65e5 c1:32.35.65e5 c1:32.36.65e5 c1:32.37.65e5 c1:32.38.65e5",
   "c1:32.39.65e5 c1:33.30.65e5 c1:33.31.65e5 c1:67.61.6c v708d x3 v37 x9 v15c x14 a2e v12 a1c",
   "s1;a252 s1;a251 v5a x8 v22 ae v2 a3e s1;1 v8 a4 s1;8a04 aa v3 s1:1 v1 s1;a528 v2 a4 v2 a14",
   "s1;a544 s1;a54f s1;a54b s1;a541 s1;a544 v1 s1;a512 s1;a52a s1;a515 s1:3a0 a10 s1;30",
   "s1;a543 s1;8a38 a4 s1;a567 a10 s1;a641 x14 s1;a77e s1;a78f s1;a78d s1;a783 s1:1 v2 s1;a6d1",
   "s1;a6a6 v33 x3 va x6 v38 x8 v46 x8 vc x6 v74 xb v1e x3 v4e x1 vb x4 v21 x1 v37 x9 ve x2 va",
   "x2 v67 x18 v1c xa v6 x2 v6 x2 v6 x9 v7 x1 v7 x1 v2c s1;435 s1;26 s1;a8f3 s1;d v9 s1;a8dc",
   "v2 x4 s50;97d0 v2e x2 va x6 v2ba4 xc v17 x4 v31 x2104 s1;6cb8 s1;920d s1;6a38 s1;6c3b",
   "s1;8a33 s1;aad3 s1;a521 c2:9f9c s1;9fb8 s1;6739 s1;a384 s1;9fc4 s1;9717 s1;82a5 s1;798a",
   "s1;72d1 s1;7157 s1;701a s1;6884 s1;8f12 s1;8bfa s1;883d s1;8539 s1;74db s1;67af s1;5f29",
   "s1;aa99 s1;a5a7 s1;8e19 s1;8703 s1;72f2 s1;5b02 s1;9bd1 s1;8937 s1;7356 s1;6fc0 s1;965c",
   "s1;774e s1;7108 s1;9a5e s1;9212 s1;8bc0 s1;862f s1;685e s1;a9a7 s1;a777 s1;a651 s1;946c",
   "s1;8e5e s1;8722 s1;824c s1;7933 s1;732f s1;72da s1;6b48 s1;6206 s1;5dca s1;5b40 s1;80af",
   "s1;7fbd s1;7b9d s1;7575 s1;663b s1;5ac1 s1;6e6b s1;a063 s1;9a3f s1;7ce4 s1;78c7 s1;86e4",
   "s1;807d s1;6c86 s1;6252 s1;a072 s1;9ce9 s1;8f39 s1;8b73 s1;8a3f s1;7c20 s1;7b19 s1;6306",
   "s1;a680 s1;78c8 s1;a778 s1;a789 s1;7f3a s1;7b99 s1;7567 s1;62e4 s1;6dda s1;968c s1;8f5a",
   "s1;6e5f s1;ab25 s1;9d78 s1;994e s1;85da s1;83f2 s1;a64c s1;8069 s1;a9a6 s1;99bd s1;ab5a",
   "s1;8c9c s1;93f1 s1;7c48 s1;a5a8 s1;a10e s1;826c s1;7525 s1;6ec5 s1;8db6 s1;69c1 s1;8cea",
   "s1;9675 s1;768f s1;95d5 s1;8411 s1;aac9 s1;a80f s1;a7b0 s1;90f9 s1;7c94 s1;770d s1;6eab",
   "s1;67af s1;a68a s1;a53e s1;a00e s1;9a96 s1;93be s1;8986 s1;805b s1;63d9 s1;5f1d s1;5af1",
   "s1;5abb s1;a6ef s1;92c5 s1;8e15 s1;6a2b s1;9b1a s1;97ff s1;9790 s1;94f7 s1;8a6f s1;884a",
   "s1;850b s1;7fcb s1;7ba2 s1;7928 s1;6a72 s1;74ab s1;6977 s1;6651 s1;a785 s1;a6fa s1;a4e1",
   "s1;88d7 s1;70de s1;6ef7 s1;9ad9 s1;99ae s1;9629 s1;8df7 s1;7d68 s1;8632 s1;aac4 s1;a2b0",
   "s1;9dc3 s1;9bf1 s1;9990 s1;85fb s1;8545 s1;7a15 s1;796a s1;677d s1;62bc s1;626b s1;619c",
   "s1;aa2a s1;8008 s1;6803 s1;6300 s1;98d8 s1;ab34 s1;a8e1 s1;9dce s1;9d7e s1;9425 s1;8fbd",
   "s1;87f2 s1;837f s1;74c6 s1;6947 s1;5a37 s1;933d s1;6398 s1;a73e s1;924d s1;91d6 s1;8c89",
   "s1;8b2f s1;85c3 s1;8474 s1;8163 s1;7cbf s1;6172 s1;a864 s1;97a4 s1;635b s1;a9a9 s1;9cbc",
   "s1;8bec s1;6aad s1;9a4d s1;9895 s1;91c3 s1;8654 s1;6356 s1;a7b4 s1;a5cf s1;9d7a s1;93cd",
   "s1;9293 s1;913a s1;8cfe s1;85de s1;8403 s1;7a6d s1;7118 s1;7107 s1;681d s1;6308 s1;a6ac",
   "s1;8b32 s1;a5d0 s1;881e s1;8557 s1;73f6 s1;634e s1;5d9b s1;5b54 s1;925d s1;8c2a s1;780e",
   "s1;7f2c s1;7ed8 s1;7d67 s1;873a s1;8962 s1;6ea4 s1;ab3d s1;76c8 s1;a7c5 s1;a7f9 s1;9b5b",
   "s1;972f s1;7d2d s1;9e7f s1;8ce7 s1;9352 s1;6acc s1;71bc s1;63bc s1;707f s1;9b38 s1;a8cc",
   "s1;a44d v2 s1;a1b6 v1 s1;939e v2 s1;a837 s1;86ec s1;834d s1;80dc s1;80bb s1;80b5 s1;808c",
   "s1;62c6 s1;7d5f s1;7a61 v1 s1;740e v1 s1;6f2a v2 s1;69ed s1;6929 v3 s1;613b s1;612f",
   "s1;6104 s1;5c79 s1;6950 s1;6378 s1;aa82 s1;a94a s1;a8e5 s1;a76a s1;a750 s1;a6e4 s1;a499",
   "s1;a431 s1;a3d0 s1;a1f9 s1;a192 s1;9dd7 s1;9dce s1;99a9 s1;98d6 s1;98b1 s1;984e s1;94f2",
   "s1;9460 s1;93b2 s1;91bf s1;8cce s1;8c2c s1;8b25 s1;88da s1;881e s1;8628 s1;81ba s1;810e",
   "s1;8104 s1;8106 s1;80ff s1;80fa s1;80f4 s2;80c5 s1;8014 s1;7fd4 s1;7e96 s1;7c63 s1;7c4f",
   "s1;7c18 s1;7ae8 s1;7a56 s1;786f c2:8279 s1;7608 s1;7150 s1;70cb s1;6f61 s1;6f2a s1;6d91",
   "s1;6d5d s1;6ab0 s1;6a2f s1;6385 s1;626a s1;622f s1;99f6 s1:14882 s1;7855 x2 s1;ac4a",
   "s1;a8bc s1;a90a s1;aaf3 s1;a92f s1;a8f5 s1;a7af s1;a77d s1;a4db s1;a524 s1;a4e1 s1;a499",
   "s1;a222 s1;a1ca s1;a13a s1;a12b s1;a01e s1;9f59 s1;9bb0 s1;9baa s1;9b1b s1;9ad8 s1;99ae",
   "s1;9939 s1;9980 s1;98fb s1;992a s1;9899 s1;9858 s1;96c9 s1;9672 s1;963d s1;953a s1;941d",
   "s1;937b s1;9378 s1;933e s1;8f1c s1;8edc s1;8d56 s1;8bbd s1;8bce s1;8b78 s1;8a7d s1;892e",
   "s1;82f6 s1;8869 s1;87f0 s1;8776 s1;8630 s1;859c s1;8568 s1;8487 s1;8486 s1;83dc s1;83cc",
   "s1;83b4 s1;835f s1;836a s1;81df s1;7ffb s1;7eed s1;7e33 s1;7d54 s1;7cbc s1;7b73 s1;7aad",
   "s1;7761 s1;76c5 s1;733c s1;7175 s1;7131 s1;7122 s1;6ffa s1;6fc2 s1;6ff0 s1;6fbb s1;6fbf",
   "s1;6fd1 s1;6f86 s1;6f36 s1;6db9 s1;6b8a s1;6a51 s1;692b s1;684f s1;644a s1;63e4 s1;6372",
   "s1;62ee s1;62cb s1;62c0 s1;6291 s1;5fbb s1;5b32 s1:12d7b s1:12d74 s1:13904 s1;bf35 s1;babb",
   "s1;ba9b s1:15774 s1:161fa s1:183fc s1;5b95 s1;5b4b x26 c1:66.66 c1:66.69 c1:66.6c",
   "c1:66.66.69 c1:66.66.6c c2:73.74 xc c1:574.576 c1:574.565 c1:574.56b c1:57e.576 c1:574.56d",
   "x5 c1:5d9.5b4 v1 c1:5f2.5b7 s1;f53e s1;f551 s2;f54f s3;f549 s1;f53f s1;f53e s1;fafe",
   "c1:5e9.5c1 c1:5e9.5c2 c1:5e9.5bc.5c1 c1:5e9.5bc.5c2 c1:5d0.5b7 c1:5d0.5b8 c1:5d0.5bc",
   "c1:5d1.5bc c1:5d2.5bc c1:5d3.5bc c1:5d4.5bc c1:5d5.5bc c1:5d6.5bc x1 c1:5d8.5bc c1:5d9.5bc",
   "c1:5da.5bc c1:5db.5bc c1:5dc.5bc x1 c1:5de.5bc x1 c1:5e0.5bc c1:5e1.5bc x1 c1:5e3.5bc",
   "c1:5e4.5bc x1 c1:5e6.5bc c1:5e7.5bc c1:5e8.5bc c1:5e9.5bc c1:5ea.5bc c1:5d5.5b9 c1:5d1.5bf",
   "c1:5db.5bf c1:5e4.5bf c1:5d0.5dc c2:671 c4:67b c4:67e c4:680 c4:67a c4:67f c4:679 c4:6a4",
   "c4:6a6 c4:684 c4:683 c4:686 c4:687 c2:68d c2:68c c2:68e c2:688 c2:698 c2:691 c4:6a9 c4:6af",
   "c4:6b3 c4:6b1 c2:6ba c4:6bb c2:6c0 c4:6c1 c4:6be c2:6d2 c2:6d3 v21 c4:6ad c2:6c7 c2:6c6",
   "c2:6c8 c1:6c7.674 c2:6cb c2:6c5 c2:6c9 c4:6d0 c2:649 c2:626.627 c2:626.6d5 c2:626.648",
   "c2:626.6c7 c2:626.6c6 c2:626.6c8 c3:626.6d0 c3:626.649 c4:6cc c1:626.62c c1:626.62d",
   "c1:626.645 c1:626.649 c1:626.64a c1:628.62c c1:628.62d c1:628.62e c1:628.645 c1:628.649",
   "c1:628.64a c1:62a.62c c1:62a.62d c1:62a.62e c1:62a.645 c1:62a.649 c1:62a.64a c1:62b.62c",
   "c1:62b.645 c1:62b.649 c1:62b.64a c1:62c.62d c1:62c.645 c1:62d.62c c1:62d.645 c1:62e.62c",
   "c1:62e.62d c1:62e.645 c1:633.62c c1:633.62d c1:633.62e c1:633.645 c1:635.62d c1:635.645",
   "c1:636.62c c1:636.62d c1:636.62e c1:636.645 c1:637.62d c1:637.645 c1:638.645 c1:639.62c",
   "c1:639.645 c1:63a.62c c1:63a.645 c1:641.62c c1:641.62d c1:641.62e c1:641.645 c1:641.649",
   "c1:641.64a c1:642.62d c1:642.645 c1:642.649 c1:642.64a c1:643.627 c1:643.62c c1:643.62d",
   "c1:643.62e c1:643.644 c1:643.645 c1:643.649 c1:643.64a c1:644.62c c1:644.62d c1:644.62e",
   "c1:644.645 c1:644.649 c1:644.64a c1:645.62c c1:645.62d c1:645.62e c1:645.645 c1:645.649",
   "c1:645.64a c1:646.62c c1:646.62d c1:646.62e c1:646.645 c1:646.649 c1:646.64a c1:647.62c",
   "c1:647.645 c1:647.649 c1:647.64a c1:64a.62c c1:64a.62d c1:64a.62e c1:64a.645 c1:64a.649",
   "c1:64a.64a c1:630.670 c1:631.670 c1:649.670 c1:20.64c.651 c1:20.64d.651 c1:20.64e.651",
   "c1:20.64f.651 c1:20.650.651 c1:20.651.670 c1:626.631 c1:626.632 c1:626.645 c1:626.646",
   "c1:626.649 c1:626.64a c1:628.631 c1:628.632 c1:628.645 c1:628.646 c1:628.649 c1:628.64a",
   "c1:62a.631 c1:62a.632 c1:62a.645 c1:62a.646 c1:62a.649 c1:62a.64a c1:62b.631 c1:62b.632",
   "c1:62b.645 c1:62b.646 c1:62b.649 c1:62b.64a c1:641.649 c1:641.64a c1:642.649 c1:642.64a",
   "c1:643.627 c1:643.644 c1:643.645 c1:643.649 c1:643.64a c1:644.645 c1:644.649 c1:644.64a",
   "c1:645.627 c1:645.645 c1:646.631 c1:646.632 c1:646.645 c1:646.646 c1:646.649 c1:646.64a",
   "c1:649.670 c1:64a.631 c1:64a.632 c1:64a.645 c1:64a.646 c1:64a.649 c1:64a.64a c1:626.62c",
   "c1:626.62d c1:626.62e c1:626.645 c1:626.647 c1:628.62c c1:628.62d c1:628.62e c1:628.645",
   "c1:628.647 c1:62a.62c c1:62a.62d c1:62a.62e c1:62a.645 c1:62a.647 c1:62b.645 c1:62c.62d",
   "c1:62c.645 c1:62d.62c c1:62d.645 c1:62e.62c c1:62e.645 c1:633.62c c1:633.62d c1:633.62e",
   "c1:633.645 c1:635.62d c1:635.62e c1:635.645 c1:636.62c c1:636.62d c1:636.62e c1:636.645",
   "c1:637.62d c1:638.645 c1:639.62c c1:639.645 c1:63a.62c c1:63a.645 c1:641.62c c1:641.62d",
   "c1:641.62e c1:641.645 c1:642.62d c1:642.645 c1:643.62c c1:643.62d c1:643.62e c1:643.644",
   "c1:643.645 c1:644.62c c1:644.62d c1:644.62e c1:644.645 c1:644.647 c1:645.62c c1:645.62d",
   "c1:645.62e c1:645.645 c1:646.62c c1:646.62d c1:646.62e c1:646.645 c1:646.647 c1:647.62c",
   "c1:647.645 c1:647.670 c1:64a.62c c1:64a.62d c1:64a.62e c1:64a.645 c1:64a.647 c1:626.645",
   "c1:626.647 c1:628.645 c1:628.647 c1:62a.645 c1:62a.647 c1:62b.645 c1:62b.647 c1:633.645",
   "c1:633.647 c1:634.645 c1:634.647 c1:643.644 c1:643.645 c1:644.645 c1:646.645 c1:646.647",
   "c1:64a.645 c1:64a.647 c1:640.64e.651 c1:640.64f.651 c1:640.650.651 c1:637.649 c1:637.64a",
   "c1:639.649 c1:639.64a c1:63a.649 c1:63a.64a c1:633.649 c1:633.64a c1:634.649 c1:634.64a",
   "c1:62d.649 c1:62d.64a c1:62c.649 c1:62c.64a c1:62e.649 c1:62e.64a c1:635.649 c1:635.64a",
   "c1:636.649 c1:636.64a c1:634.62c c1:634.62d c1:634.62e c1:634.645 c1:634.631 c1:633.631",
   "c1:635.631 c1:636.631 c1:637.649 c1:637.64a c1:639.649 c1:639.64a c1:63a.649 c1:63a.64a",
   "c1:633.649 c1:633.64a c1:634.649 c1:634.64a c1:62d.649 c1:62d.64a c1:62c.649 c1:62c.64a",
   "c1:62e.649 c1:62e.64a c1:635.649 c1:635.64a c1:636.649 c1:636.64a c1:634.62c c1:634.62d",
   "c1:634.62e c1:634.645 c1:634.631 c1:633.631 c1:635.631 c1:636.631 c1:634.62c c1:634.62d",
   "c1:634.62e c1:634.645 c1:633.647 c1:634.647 c1:637.645 c1:633.62c c1:633.62d c1:633.62e",
   "c1:634.62c c1:634.62d c1:634.62e c1:637.645 c1:638.645 c2:627.64b v12 c1:62a.62c.645",
   "c2:62a.62d.62c c1:62a.62d.645 c1:62a.62e.645 c1:62a.645.62c c1:62a.645.62d c1:62a.645.62e",
   "c2:62c.645.62d c1:62d.645.64a c1:62d.645.649 c1:633.62d.62c c1:633.62c.62d c1:633.62c.649",
   "c2:633.645.62d c1:633.645.62c c2:633.645.645 c2:635.62d.62d c1:635.645.645 c2:634.62d.645",
   "c1:634.62c.64a c2:634.645.62e c2:634.645.645 c1:636.62d.649 c2:636.62e.645 c2:637.645.62d",
   "c1:637.645.645 c1:637.645.64a c1:639.62c.645 c2:639.645.645 c1:639.645.649 c1:63a.645.645",
   "c1:63a.645.64a c1:63a.645.649 c2:641.62e.645 c1:642.645.62d c1:642.645.645 c1:644.62d.645",
   "c1:644.62d.64a c1:644.62d.649 c2:644.62c.62c c2:644.62e.645 c2:644.645.62d c1:645.62d.62c",
   "c1:645.62d.645 c1:645.62d.64a c1:645.62c.62d c1:645.62c.645 c1:645.62e.62c c1:645.62e.645",
   "v2 c1:645.62c.62e c1:647.645.62c c1:647.645.645 c1:646.62d.645 c1:646.62d.649",
   "c2:646.62c.645 c1:646.62c.649 c1:646.645.64a c1:646.645.649 c2:64a.645.645 c1:628.62e.64a",
   "c1:62a.62c.64a c1:62a.62c.649 c1:62a.62e.64a c1:62a.62e.649 c1:62a.645.64a c1:62a.645.649",
   "c1:62c.645.64a c1:62c.62d.649 c1:62c.645.649 c1:633.62e.649 c1:635.62d.64a c1:634.62d.64a",
   "c1:636.62d.64a c1:644.62c.64a c1:644.645.64a c1:64a.62d.64a c1:64a.62c.64a c1:64a.645.64a",
   "c1:645.645.64a c1:642.645.64a c1:646.62d.64a c1:642.645.62d c1:644.62d.645 c1:639.645.64a",
   "c1:643.645.64a c1:646.62c.62d c1:645.62e.64a c1:644.62c.645 c1:643.645.645 c1:644.62c.645",
   "c1:646.62c.62d c1:62c.62d.64a c1:62d.62c.64a c1:645.62c.64a c1:641.645.64a c1:628.62d.64a",
   "c1:643.645.645 c1:639.62c.645 c1:635.645.645 c1:633.62e.64a c1:646.62c.64a v8 x20",
   "c1:635.644.6d2 c1:642.644.6d2 c1:627.644.644.647 c1:627.643.628.631 c1:645.62d.645.62f",
   "c1:635.644.639.645 c1:631.633.648.644 c1:639.644.64a.647 c1:648.633.644.645 c1:635.644.649",
   "c1:635.644.649.20.627.644.644.647.20.639.644.64a.647.20.648.633.644.645",
   "c1:62c.644.20.62c.644.627.644.647 c1:631.6cc.627.644 v3 i10 s1;fde4 s1;ce10 x1 s2;fdd9",
   "s1;fdf4 s1;fdd7 s2;ce01 x7 v10 x1 s1;de1d s1;de1f c2:5f s2;fe0d s1;fdbc s1;fdbb s2;ce25",
   "s2;ce2b s2;ce33 s2;ce37 s4;ce35 v2 s1;fdec s1;fdeb c4:20.305 c3:5f s1;fe24 s1;ce50 x2",
   "s1;fe19 s1;fe1b s1;fe17 s1;fe36 s1;de44 s2;fe31 s1;fde0 s1;fddf s2;ce49 s1;fe3c s1;fe3a",
   "s2;fe37 s1;fe36 s1;fe28 s1;fe27 s1;fe29 x1 s1;fe0c s2;fe45 s1;fe2b x4 c1:20.64b c1:640.64b",
   "c1:20.64c v1 c1:20.64d x1 c1:20.64e c1:640.64e c1:20.64f c1:640.64f c1:20.650 c1:640.650",
   "c1:20.651 c1:640.651 c1:20.652 c1:640.652 s2;f85f s2;f860 s2;f861 s2;f862 s2;f863 c3:626",
   "c2:627 c4:628 c2:629 c4:62a c4:62b c4:62c c4:62d c4:62e c2:62f c2:630 c2:631 c2:632 c4:633",
   "c4:634 c4:635 c4:636 c4:637 c4:638 c4:639 c4:63a c4:641 c4:642 c4:643 c4:644 c4:645 c4:646",
   "c4:647 c2:648 c2:649 c4:64a c2:644.622 c2:644.623 c2:644.625 c2:644.627 x2 i1 x1 s20;fee0",
   "s1a;fec0 s24;fee0 s2;d5da s1;ff33 s2;cf56 s1;cf63 s1;ce6a s1;ce74 s1;cec6 s1;cec5 s1;cec4",
   "s1;cec3 s1;cec2 s1;ce89 s1;ce88 s1;ce87 s1;ceac s1;ce74 s1;cecf s1;cece s1;cecd s1;cecc",
   "s2;cecb s1;ceca s1;cec9 s1;cec8 s1;cec7 s1;cec6 s1;cec5 s1;cec4 s1;cec3 s1;cec2 s1;cec1",
   "s1;cec0 s1;cebe s1;cebd s1;cebc s6;cebb s1;ceb9 s1;ceb7 s1;ceb5 s1;ceb3 s5;ceb1 s1;ceb0",
   "s1;ceaf s6;ceae s1;cead s1;ceaa s2;cf05 i1 s2;eea1 s1;edf9 s1;eea2 s2;edf9 s3;eea4 s6;edfa",
   "s1;ee96 s3;eeab s1;ee93 sa;eeac x3 s6;ee61 x2 s6;ee63 x2 s6;ee65 x2 s3;ee67 x3 s2;ff3e",
   "s1;ff36 c1:20.304 s1;ff3e s1;ff40 s1;df3d x1 s1;dae6 s4;de59 s1;da4d s1;da23 x11 vc x1 v1a",
   "x1 v13 x1 v2 x1 vf x2 ve x22 v7b x5 v3 x4 v2d x3 v58 x1 vd x3 v1 x2f v2e x82 v1d x3 v31 xf",
   "v1c x4 v24 x9 v1e x5 v2b x5 v1e x1 v25 x4 ve x2a s28:28 v76 x2 va x6 s24:28 x4 v24 x4 v28",
   "x8 v34 xb v1 sb:27 x1 sf:27 x1 s7:27 x1 s2:27 x1 vb x1 vf x1 v7 x1 v2 x3 v34 xc v137 x9",
   "v16 xa v8 x18 v1 s2;104b1 s1;1069d s1;104eb s1;10532 x1 s1;104e4 s1;5c22 s1;104e4 s1;104e6",
   "s2;10535 s1;e9fc s1;10536 s1;10531 s1;104e7 s1;1052d s1;10530 s1;10533 s1;104f9 s1;1066e",
   "s1;104fa s1;10530 s1;10514 s2;104ef s1;1052f s1:d768 s1;600f s1;10530 s1:d766 s1;10512",
   "s1:d765 s1;106aa s2;1052d s1;10734 s1;1052c s1:d761 s2;1052b s1;1052a s1;10503 s1;10506",
   "s1;5c46 s1;10507 s1;10527 s1;db3f x1 s1;10523 s2;10512 s1;1051d s3;105f6 s1:d751 s1:d764",
   "x45 v6 x2 v1 x1 v2c x1 v2 x3 v1 x2 v17 x1 v48 x8 v9 x30 v13 x1 v2 x5 v21 x3 v1b x5 v1b x26",
   "v38 x4 v14 x2 v32 x1 v2 x5 v8 x1 v3 x1 v1d x2 v3 x4 va x7 v9 x7 v40 x20 v27 x4 vc x9 v36",
   "x3 v1d x2 v1b x5 v1a x7 v4 xc v7 x50 v49 x37 s33:40 xd v33 x7 v2e x8 va x6 v10 s16:20 x3",
   "v1d x8 v2 xd0 v1f x1 v2a x1 v3 x2 v2 x10 v6 x8 v9 x21 v2e x8 v2a x16 v1a x26 v1c x14 v17",
   "x9 v4e x4 v24 x9 v3e x1 v5 xd v19 x7 va x6 v35 x1 v12 x8 v27 x9 v60 x1 v14 xb v12 x1 v2f",
   "x3e v7 x1 v1 x1 v4 x1 vf x1 vb x6 v3b x5 va x6 v4 x1 v8 x2 v2 x2 v16 x1 v7 x1 v2 x1 v5 x1",
   "va x2 v2 x2 v3 x2 v1 x6 v1 x5 v7 x2 v7 x3 v5 xb va x1 v1 x2 v1 x1 v26 x1 va x1 v1 x2 v1 x1",
   "v4 x1 va x1 v2 x8 v2 x1d v5c x1 v5 x1e v48 x8 va xa6 v36 x2 v26 x22 v45 xb va x6 vd x13",
   "v3a x6 va x6 v14 x1c v1b x2 vf x4 v17 xb9 v3c x64 s20:20 v33 xc v8 x2 v1 x2 v8 x1 v2 x1",
   "v1e x1 v2 x2 vc x9 va x46 v8 x2 v2e x2 vb x1b v48 x8 v53 xd v49 x7 va x56 v8 x58 v22 xe va",
   "x6 v9 x1 v2d x1 ve xa v1d x3 v20 x2 v16 x1 ve x49 v7 x1 v2 x1 v2c x3 v1 x1 v2 x1 v9 x8 va",
   "x6 v6 x1 v2 x1 v25 x1 v2 x1 v6 x7 va x6 v2c x4 va xf6 v19 x7 v11 x1 v29 x3 v1d x55 v1 xf",
   "v32 xd v39b x66 v6f x1 v5 xb vc4 xa4c v63 xd v430 x10 v16 xa vf9b x5 v247 x1ab9 v3a x6c6",
   "v239 x7 v1f x1 va x4 v51 x1 va x6 v1e x2 v6 xa v46 xa va x1 v7 x1 v15 x5 v13 x1b0 v3a xc6",
   "s20:20 v3b x5 s19:1b x2 v19 x2c v4b x4 v39 x7 v11 x40 v5 xb v7 x9 v1cd6 x29 v20 x61 v73",
   "x21fd v4 x1 v7 x1 v2 x1 v123 xf v1 x1d v3 x2 v1 xe v4 x8 v18c x904 v6b x5 vd x3 v9 x7 va",
   "x2 v4 i4 xf5c vd6 s1a;1cc75 sa;1ccc0 v3 x3 v1b4 x6 v17 xf v11 xf v2e x2 v17 x9 v74 x3c vf6",
   "xa v27 x2 v35 c1:1d157.1d165 c1:1d158.1d165 c1:1d158.1d165.1d16e c1:1d158.1d165.1d16f",
   "c1:1d158.1d165.1d170 c1:1d158.1d165.1d171 c1:1d158.1d165.1d172 ve i8 v40 c1:1d1b9.1d165",
   "c1:1d1ba.1d165 c1:1d1b9.1d165.1d16e c1:1d1ba.1d165.1d16e c1:1d1b9.1d165.1d16f",
   "c1:1d1ba.1d165.1d16f v2a x15 v46 x7a v14 xc v14 xc v57 x9 v19 x87 s1a;1d39f s1a;1d3b9",
   "s1a;1d3d3 s7;1d3ed x1 s12;1d3ed s1a;1d407 s1a;1d421 s1;1d43b x1 s2;1d43b x2 s1;1d43b x2",
   "s2;1d43b x2 s4;1d43b x1 s8;1d43b s4;1d455 x1 s1;1d455 x1 s7;1d455 x1 sb;1d455 s1a;1d46f",
   "s1a;1d489 s2;1d4a3 x1 s4;1d4a3 x2 s8;1d4a3 x1 s7;1d4a3 x1 s1a;1d4bd s2;1d4d7 x1 s4;1d4d7",
   "x1 s5;1d4d7 x1 s1;1d4d7 x3 s7;1d4d7 x1 s1a;1d4f1 s1a;1d50b s1a;1d525 s1a;1d53f s1a;1d559",
   "s1a;1d573 s1a;1d58d s1a;1d5a7 s1a;1d5c1 s1a;1d5db s1a;1d5f5 s1a;1d60f s1a;1d629 s1;1d573",
   "s1;1d46e x2 s11;1d2f7 s1;1d301 s7;1d2f7 s1;1b4ba s11;1d311 c2:3c3 s6;1d311 s1;1b4d9",
   "s1;1d327 s1;1d325 s1;1d324 s1;1d319 s1;1d31f s1;1d321 s11;1d331 s1;1d33b s7;1d331 s1;1b4f4",
   "s11;1d34b c2:3c3 s6;1d34b s1;1b513 s1;1d361 s1;1d35f s1;1d35e s1;1d353 s1;1d359 s1;1d35b",
   "s11;1d36b s1;1d375 s7;1d36b s1;1b52e s11;1d385 c2:3c3 s6;1d385 s1;1b54d s1;1d39b s1;1d399",
   "s1;1d398 s1;1d38d s1;1d393 s1;1d395 s11;1d3a5 s1;1d3af s7;1d3a5 s1;1b568 s11;1d3bf c2:3c3",
   "s6;1d3bf s1;1b587 s1;1d3d5 s1;1d3d3 s1;1d3d2 s1;1d3c7 s1;1d3cd s1;1d3cf s11;1d3df s1;1d3e9",
   "s7;1d3df s1;1b5a2 s11;1d3f9 c2:3c3 s6;1d3f9 s1;1b5c1 s1;1d40f s1;1d40d s1;1d40c s1;1d401",
   "s1;1d407 s1;1d409 c2:3dd x2 sa;1d79e sa;1d7a8 sa;1d7b2 sa;1d7bc sa;1d7c6 v28c xf v5 x1 vf",
   "x450 v1f x6 v6 xd5 v7 x1 v11 x2 v7 x1 v2 x1 v5 x5 s9;1dc00 s3;1dbff sb;1dbfe s1;1dbfc",
   "s2;1dbfb s1;139c1 s1;1db72 s1;1dbf6 s1;1dbf5 s1;1db65 s1;1dba0 s1;1db81 s9;1dc21 s2;1dc20",
   "s2;1dc1e s1;1dc1d s6;1dc1c s2;1dc1b s1;1dbd6 s1;1dc12 s1;1dc14 s1;1dc0b s1;1dbc0 s1;13a1b",
   "s1;1dbbc x21 v1 x70 v2d x3 ve x2 va x4 v2 x140 v1f x11 v3a x5 v1 x1d0 v2a xd6 v2b x4 v1",
   "xc0 v1f x1 v16 x8 v2 xe0 v7 x1 v4 x1 v2 x1 vf x1 vc5 x2 v10 x29 s22:22 v2a x4 va x4 v2",
   "x311 v44 x4c v3d xc2 s2;1e7d9 s1;1e7d6 s1;1e7d4 x1 s1;1e7bd s1;1e7d4 s1;1e7da s1;1e7d1",
   "s1;1e7bf s4;1e7c7 s1;1e7db s1;1e7d6 s1;1e7cf s1;1e7dc s1;1e7d0 s1;1e7e2 s1;1e7e0 s2;1e7eb",
   "s1;1e7e9 s1;1e7e8 s1;1e7e3 s1;1e7e2 s1;1e7e1 s1;1e7ae s1;1e763 s1;1e77d s1;1e7b0 x1",
   "s1;1e7f9 s1;1e7f6 x1 s1;1e7dd x2 s1;1e7fa x1 s1;1e7df s4;1e7e7 s1;1e7fb s1;1e7f6 s1;1e7ef",
   "s1;1e7fc s1;1e7f0 x1 s1;1e800 s2;1e80b s1;1e809 x1 s1;1e803 x1 s1;1e801 x6 s1;1e816 x4",
   "s1;1e81a x1 s1;1e7ff x1 s1;1e807 x1 s1;1e807 s1;1e81b s1;1e816 x1 s1;1e81c s1;1e810 x1",
   "s1;1e820 x2 s1;1e829 x1 s1;1e823 x1 s1;1e821 x1 s1;1e7a3 x1 s1;1e7f0 x1 s1;1e839 s1;1e836",
   "x1 s1;1e81d x2 s1;1e83a s1;1e831 s1;1e81f s1;1e827 x1 s2;1e827 s1;1e83b s1;1e836 s1;1e82f",
   "s1;1e83c s1;1e830 x1 s1;1e840 s2;1e84b s1;1e849 x1 s1;1e843 s1;1e842 s1;1e841 s1;1e80e x1",
   "s1;1e7dd x1 s2;1e859 s1;1e856 s1;1e854 s2;1e83d s1;1e854 s1;1e85a s1;1e851 s1;1e83f x1",
   "s3;1e847 s1;1e85b s1;1e856 s1;1e84f s1;1e85c s1;1e850 s1;1e862 s1;1e860 s2;1e86b s1;1e869",
   "s1;1e868 s1;1e863 s1;1e862 s1;1e861 x5 s1;1e879 s1;1e876 s1;1e874 x1 s1;1e85d s1;1e874",
   "s1;1e87a s1;1e871 s1;1e85f x1 s3;1e867 s1;1e87b s1;1e876 s1;1e86f s1;1e87c s1;1e870",
   "s1;1e882 s1;1e880 s2;1e88b s1;1e889 s1;1e888 s1;1e883 s1;1e882 s1;1e881 x34 v2 x10e v2c x4",
   "v64 xc vf x2 vf x1 vf x1 v25 xb c1:30.2c c1:31.2c c1:32.2c c1:33.2c c1:34.2c c1:35.2c",
   "c1:36.2c c1:37.2c c1:38.2c c1:39.2c v5 c1:28.61.29 c1:28.62.29 c1:28.63.29 c1:28.64.29",
   "c1:28.65.29 c1:28.66.29 c1:28.67.29 c1:28.68.29 c1:28.69.29 c1:28.6a.29 c1:28.6b.29",
   "c1:28.6c.29 c1:28.6d.29 c1:28.6e.29 c1:28.6f.29 c1:28.70.29 c1:28.71.29 c1:28.72.29",
   "c1:28.73.29 c1:28.74.29 c1:28.75.29 c1:28.76.29 c1:28.77.29 c1:28.78.29 c1:28.79.29",
   "c1:28.7a.29 c1:3014.73.3015 s1;1f0c8 s1;1f0ba c1:63.64 c1:77.7a v1 s1a;1f0cf c1:68.76",
   "c1:6d.76 c1:73.64 c1:73.73 c1:70.70.76 c1:77.63 v1a c1:6d.63 c1:6d.64 c1:6d.72 v23",
   "c1:64.6a v1d x38 v1a c1:307b.304b c1:30b3.30b3 s1;1c14d xd s1;18fc5 s1;196ba s1;19e46",
   "s1;1c14c s1;1a388 s1;198fb s1;16833 s1;198ee s1;1a374 s1;18bf9 s1;180f9 s1;18c82 s1;19fcf",
   "s1;19291 s1;1a091 s1;18c6f s1;1a003 s1;174df s1;17d03 s1;1657a s1;19934 s1;19dec s1;18312",
   "s1;18f92 s1;18ed3 s1;1a429 s1;1a421 s1;161e1 s1;19446 s1;1a400 s1;19e3b s1;18f28 s1;164c0",
   "s1;18fde s1;178b1 s1;177b9 s1;19e2c s1;183b5 s1;18b2d s1;18b2f s1;17d05 s1;19fc7 s1;19c84",
   "s1;160ee x4 c1:3014.672c.3015 c1:3014.4e09.3015 c1:3014.4e8c.3015 c1:3014.5b89.3015",
   "c1:3014.70b9.3015 c1:3014.6253.3015 c1:3014.76d7.3015 c1:3014.52dd.3015 c1:3014.6557.3015",
   "x7 s1;192b9 s1;19e62 xe v6 x9a v3d9 x3 v11 x3 vd x3 vda x6 vc x4 v1 xf vc x4 v38 x8 va x6",
   "v28 x8 v1e x2 vc x4 v2 xe v9 x27 v158 x8 ve x2 vd x3 vb x3 v39 x1 v1 x4 v10 x2 vc x4 va x7",
   "v93 x1 v5c sa;1fbc0 v1 x405 va6e0 x20 v111e x2 v168e x2 v1d31 xf v26e x9a2 s1;2a9c3",
   "s1;2a9c9 s1;2a9c1 s1;f6e1 s1;2a8a4 s1;2a857 s1;2a84b s1;2a805 s1;2a78e s1;2a770 s1;2a723",
   "s1;2a73c s1;2c36e s1;f1d3 s1;2a6c1 s1;2a6bb s1;2a6ac s1;2a69a s1;f2f6 s1;2c35a s1;2a6ad",
   "s1;2a688 s1;f2cb s1;2a680 s1;2a674 s1;2a94d s1;2a66e s1;2a666 s1;663d s1;2a628 s1;2a61b",
   "s1;2c340 s1;2a5e5 s1;2a5db s1;2a5b0 s1;2a5ac s1;2c30f s1;2a55e s1;2a55d s1;2a543 s1;2a52e",
   "s2;2a524 s1;2a514 s1;2a4e3 s1;2a4dc s1;2a4d4 s1;2a4bc s1;2a4b3 c3:537f s1;ee08 s1;287c5",
   "s1;2a46c s1;2a458 s1;ecd5 s1;2a44e s1;2a449 s1;2a435 s1;2a39e s1;2a405 s1;2a3f6 s1;2a3d7",
   "s1;2a39e s1;2a34b s1;2a332 s1;2a2f0 s1;2a2e1 c2:5584 s1;2a2ae s1;2a29d s1;2a296 s1;2a288",
   "s1;2a135 s1;2a246 s1;2a136 s1;2a1fd s1;2a1db s1;2a649 s1;29f63 s1;2a084 s1;2a05f s1;2a047",
   "s1;2a0ca s1;2a024 s1;2a026 s1;29fac s1;e375 s1;29f68 s1;29f64 s1;29f56 s1;29f43 s1;29f3c",
   "s1;29efd s1;e1b8 s1;e177 s1;29e76 s1;29e48 s1;29e3d s1;29e8d s1;29e00 s1;2c179 s1;2c16c",
   "s1;29d61 c2:5b3e s1;dea4 s1;29caa s1;29c96 s1;29c88 s1;29c7d s1;dd59 s1;29c73 s1;29c6d",
   "s1;29921 s1;29c53 s1;2c0f5 s1;29c17 s1;29c0a s1;29bb9 s1;29bed s1;da97 s1;29b39 s1;da97",
   "s1;29b10 s1;29b14 s1;29b04 s2;29aa0 s1;2c054 s1;29a87 s1;29a5d s1;29a49 s1;29a1e s1;2c026",
   "s1;d706 s1;2c00e s1;299db s1;299d9 s1;299d7 s1;299c4 s1;54fd s1;29992 c2:22331 s1;27692",
   "c2:5f22 s1;2bfcf s1;c5df s1;96be s1;29937 s1;2992f s1;2bfb8 s1;29902 s1;298d0 s1;298c7",
   "s1;298a6 s1;2981f s1;2bf67 s1;2bf86 s1;2980f s1;d1d0 s1;297de s1;2975e s1;2975b s1;2975a",
   "s1;2975d s1;29730 s1;2971d s1;296fa s1;29709 s1;296ff s1;296d1 s1;296be s1;296bb s1;296a2",
   "s1;29698 s1;29657 s1;29604 s1;295e2 s1;29567 s1;cdac s1;2957c s1;295be s1;29553 s1;29539",
   "s1;294d9 s1;cccd s1;2949d s1;294fb s1;29518 s1;2be94 s1;2945a s1;29446 s1;29428 s1;2944f",
   "s1;2be5b s1;29379 s1;2935d s1;c8c0 s1;292e8 s1;291d4 s1;29284 s1;2bdb5 s1;2923e s1;2bdc8",
   "s1;2bded s1;2a740 s1;2a73e s1;291d4 s1;29239 s1;27829 s1;2b4fe s1;291c1 s1;291be s1;291b9",
   "s1;2917d s1;29189 s1;c51a s1;2bd95 s1;290e5 s1;2915b s1;2908f s1;2905d s1;c476 s1;29056",
   "s1;290c6 s1;28fd2 s1;2bd4a s1;28fa6 s1;28f46 s1;28f00 s1;28e43 s1;c249 s1;28e12 s1;2bcd6",
   "s1;28dce s1;c049 s1;28d9d s1;2bca4 s1;28d81 s1;28d55 s2;28d3b s1;be6a s1;dbed s1;bdff",
   "s1;28cac s1;bc3f s1;28c3d s1;28c30 s1;28c97 s1;28be9 s1;28bc2 s1;28b8a s1;28bc1 s1;28b9a",
   "s1;28b8c s1;28b80 s1;bbe8 s1;28bd3 s1;28ad9 s1;28a9b s1;2bbd7 s1;28a40 s1;28a45 s1;ba3c",
   "s1;28b15 s1;289a1 s1;b9b2 s1;b983 s1;2894c s1;288da s1;288f6 s1;288fa s1;2bb80 s1;288cd",
   "s1;2889b s1;288a2 s1;2886d s1;f3f6 s1;287d7 s1;b6ba s1;28782 s1;b574 s1;286f8 s1;286ec",
   "s1;286d2 s1;b31b s1;286a4 s1;28690 s1;b1f1 s1;b113 s1;285ae s1;2859e s1;2ba7e s1;28586",
   "c2:3eb8 s1;284e7 s1;284d3 s1;284bf s1;284ac s1;28468 s1;2ba18 s1;28410 s1;acff s1;283f8",
   "s1;aca5 s1;283c8 s1;d79a s1;2832a s1;a99a s1;a984 s1;a8f9 s1;2b942 s1;2b937 s1;2824c",
   "s1;a84e s1;a850 s1;a82a s1;a811 s2;28227 s1;28228 s1;281fe s1;2b910 s1;281bf s1;2b905",
   "s1;2b8b6 s1;a530 s1;28100 s1;280c3 s1;28084 s1;2b86e s1;a32c s1;27ffd s1;a2ba s1;a290",
   "s1;27fc7 s1;27f6c s1;2b829 s1;27f19 s1;27f10 s1;27f0c s1;9fe0 c2:25aa7 s1;27e71 s1;2b75e",
   "s1;9db6 s1;27d9c s1;27d9a s1;2b73d s1;9ce5 s1;27c94 s1;2b6c7 s1;27c80 s1;27c86 s1;27c6a",
   "s1;99e5 s1;27c09 s1;2b66c s1;27ba7 s1;27b6d s1;27b2b s1;2b63d s1;974a s1;972c s1;2b61b",
   "s1;969c s1;279fc s1;9639 s1;279e3 s1;2797f s1;27975 s1;94a1 s1;9459 s1;2791d s1;93d6",
   "s1;2790f s1;c621 s1;2b5ac s1;278d0 s1;27880 s1;2b579 s1;27847 s1;29ed1 s1;91e0 s1;91d3",
   "s1;c5f6 s1;c5ee s1;2778a s1;27788 s1;269ef s1;2b523 s1;276fe s1;27705 s1;276f4 s1;2a6df",
   "s1;276e2 s1;276e1 s1;276d8 s1;276b0 s1;8e5b s1;276b3 s1;2767c s1;27637 s1;275ee s1;27679",
   "s1;275e0 s1;275b7 s1;27548 s1;2764d s1;275d7 s1;275d6 s1;275c7 s1;8d6e s1;8c3a s1;8cd1",
   "s1;2b47c s1;274b7 s1;274b6 s1;27494 s1;85e1 s1;27448 s1;8a81 s1;2b451 s1;2b44e s1;89ff",
   "s1;88df s1;2b447 s1;27363 s1;27358 s1;2734e s1;2734d s1;2730e s1;27330 s1;272ab s1;272d8",
   "s1;27242 s1;27294 s1;27252 s1;27238 s1;2b3e8 s1;271df s1;271c0 s1;2b3c9 s1;27163 s1;27161",
   "s1;835e s1;270ef s1;270e9 s1;2b393 s1;270cf s1;2c50f s1;811d s1;8066 s1;2b30f s1;2b307",
   "s1;26f2f s1;26ee3 s1;26e47 s1;26d7d s1;7d2b s1;26d29 s1;26d14 s1;26cbb s1;26c60 s1;7aa9",
   "s1;f1d5 s1;26c0f s1;26c1f s1;26bec s1;f0ff s1;26b0a s1;26aa7 s1;740e s1;73f4 s1;2694e",
   "s1;268f2 s1;268d3 s1;72b7 s1;268cb s1;267af s2;26711 s1;2676e s1;265f2 s1;265d7 s1;6df3",
   "s1;26463 s1;2b05a s1;26439 s1;6c7a s1;2b00c s1;26330 s1;29c42 s1;262d2 s1;68b1 s1;67dd",
   "s1;2af8a s1;2af83 s1;2621a s1;65f1 s1;2af4a s1;6567 c2:980b s1;261d7 s1;644b s1;26120",
   "s1;2aed0 s1;260db s1;2605e s1;26044 s1;26009 s1;2ae3a s1;5ed9 s1;25ef8 s1;25dcb s1;25d0f",
   "s1;2ad3f s1;2ad21 s1;25ca8 s1;5942 s1;2ad19 s1;590d s1;5805 s1;5783 s1;25b5a s1;2acc0",
   "s1;25b1e s1;25b1a s1;25b14 s1;25b0b s1;25b05 s1;25ae1 s1;541d x5e2 v134b x5 v212a xacc86",
   "if0 x2fe10"]

end SoapGateway.Idna

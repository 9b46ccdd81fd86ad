/-!
# Properties of characters in internationalised names

Data of the Unicode standard, for the characters that the mapping table lets pass. The rows list the
code points at which a property changes, in hexadecimal, each with a letter for the value that holds
from there on.
-/
namespace SoapGateway.Idna

/-- Direction of writing: `L` left to right, `R` right to left (`R` and `AL`), `N` an Arabic number
(`AN`), `E` a European number (`EN`), `M` a mark (`NSM`), `O` no direction of its own (`ES`, `CS`,
`ET`, `ON`, `BN`), `X` any other. -/
def directionRows : List String :=
  ["0O 9X eO 1cX 21O 30E 3aO 61L 7bO dfL f7O f8L 2b9O 2bbL 2c2O 2d0L 2d2O 2eeL 2efO 300M 371L",
   "375O 377L 3f6O 3f8L 483M 48bL 58aO 591M 5beR 5bfM 5c0R 5c1M 5c3R 5c4M 5c6R 5c7M 5d0R 606O",
   "608R 609O 60bR 60cO 60dR 60eO 610M 61bR 64bM 660N 66aO 66bN 66dR 670M 671R 6d6M 6deO 6dfM",
   "6e5R 6e7M 6e9O 6eaM 6eeR 6f0E 6faR 711M 712R 730M 74dR 7a6M 7b1R 7ebM 7f4R 7f6O 7faR 7fdM",
   "7feR 816M 81aR 81bM 824R 825M 828R 829M 830R 859M 85eR 897M 8a0R 8caM 903L 93aM 93bL 93cM",
   "93dL 941M 949L 94dM 94eL 951M 960L 962M 964L 981M 982L 9bcM 9bdL 9c1M 9c7L 9cdM 9ceL 9e2M",
   "9e6L 9f2O 9f4L 9fbO 9fcL 9feM a03L a3cM a3eL a41M a5cL a70M a72L a75M a76L a81M a83L abcM",
   "abdL ac1M ac9L acdM ad0L ae2M ae6L af1O af9L afaM b02L b3cM b3dL b3fM b40L b41M b47L b4dM",
   "b57L b62M b66L b82M b83L bc0M bc1L bcdM bd0L bf3O c00M c01L c04M c05L c3cM c3dL c3eM c41L",
   "c46M c58L c62M c66L c78O c7fL c81M c82L cbcM cbdL cccM cd5L ce2M ce6L d00M d02L d3bM d3dL",
   "d41M d46L d4dM d4eL d62M d66L d81M d82L dcaM dcfL dd2M dd8L e31M e32L e34M e3fO e40L e47M",
   "e4fL eb1M eb2L eb4M ebdL ec8M ed0L f18M f1aL f35M f36L f37M f38L f39M f3aO f3eL f71M f7fL",
   "f80M f85L f86M f88L f8dM fbeL fc6M fc7L 102dM 1031L 1032M 1038L 1039M 103bL 103dM 103fL",
   "1058M 105aL 105eM 1061L 1071M 1075L 1082M 1083L 1085M 1087L 108dM 108eL 109dM 109eL 135dM",
   "1360L 1390O 13a0L 1400O 1401L 169bO 16a0L 1712M 1715L 1732M 1734L 1752M 1760L 1772M 1780L",
   "17b7M 17beL 17c6M 17c7L 17c9M 17d4L 17dbO 17dcL 17ddM 17e0L 17f0O 1810L 1885M 1887L 18a9M",
   "18aaL 1920M 1923L 1927M 1929L 1932M 1933L 1939M 1940O 1946L 19deO 1a00L 1a17M 1a19L 1a1bM",
   "1a1eL 1a56M 1a57L 1a58M 1a61L 1a62M 1a63L 1a65M 1a6dL 1a73M 1a80L 1ab0M 1b04L 1b34M 1b35L",
   "1b36M 1b3bL 1b3cM 1b3dL 1b42M 1b43L 1b6bM 1b74L 1b80M 1b82L 1ba2M 1ba6L 1ba8M 1baaL 1babM",
   "1baeL 1be6M 1be7L 1be8M 1beaL 1bedM 1beeL 1befM 1bf2L 1c2cM 1c34L 1c36M 1c3bL 1cd0M 1cd3L",
   "1cd4M 1ce1L 1ce2M 1ce9L 1cedM 1ceeL 1cf4M 1cf5L 1cf8M 1cfaL 1dc0M 1e01L 200cO 20d0M 2104O",
   "214eL 218aO 2336L 237bO 2395L 2396O 2427L 2440O 26acL 26adO 2800L 2900O 2b96L 2b97O 2c30L",
   "2ce5O 2cecL 2cefM 2cf3L 2cf9O 2d00L 2d7fM 2d80L 2de0M 2e00O 3005L 3008O 3021L 302aM 302eL",
   "3030O 3031L 3037O 303bL 303dO 3041L 3099M 309dL 30a0O 30a1L 30fbO 30fcL 31c0O 31e4L 4dc0O",
   "4e00L a490O a4d0L a60dO a610L a66fM a673O a674M a67eO a681L a69eM a6a0L a6f0M a6f2L a700O",
   "a723L a788O a789L a802M a803L a806M a807L a80bM a80cL a825M a827L a828O a82cM a830L a838O",
   "a840L a874O a880L a8c4M a8ceL a8e0M a8f2L a8ffM a900L a926M a92eL a947M a952L a980M a983L",
   "a9b3M a9b4L a9b6M a9baL a9bcM a9beL a9e5M a9e6L aa29M aa2fL aa31M aa33L aa35M aa40L aa43M",
   "aa44L aa4cM aa4dL aa7cM aa7dL aab0M aab1L aab2M aab5L aab7M aab9L aabeM aac0L aac1M aac2L",
   "aaecM aaeeL aaf6M ab01L ab6aO abc0L abe5M abe6L abe8M abe9L abedM abf0L fb1eM fbb2R fd3eO",
   "fd90R fdcfO fe20M fe45O fe73R 10000L 10101O 10102L 10140O 1018dL 10190O 101d0L 101fdM",
   "10280L 102e0M 102e1E 10300L 10376M 10380L 10800R 1091fO 10920R 10a01M 10a10R 10a38M 10a40R",
   "10ae5M 10aebR 10b39O 10b40R 10d24M 10d30N 10d40R 10d69M 10d6eR 10e60N 10e80R 10eabM 10eadR",
   "10efaM 10f00R 10f46M 10f51R 10f82M 10f86R 11000L 11001M 11002L 11038M 11047L 11052O 11066L",
   "11070M 11071L 11073M 11075L 1107fM 11082L 110b3M 110b7L 110b9M 110bbL 110c2M 110d0L 11100M",
   "11103L 11127M 1112cL 1112dM 11136L 11173M 11174L 11180M 11182L 111b6M 111bfL 111c9M 111cdL",
   "111cfM 111d0L 1122fM 11232L 11234M 11235L 11236M 11238L 1123eM 1123fL 11241M 11280L 112dfM",
   "112e0L 112e3M 112f0L 11300M 11302L 1133bM 1133dL 11340M 11341L 11366M 11380L 113bbM 113c2L",
   "113ceM 113cfL 113d0M 113d1L 113d2M 113d3L 113e1M 11400L 11438M 11440L 11442M 11445L 11446M",
   "11447L 1145eM 1145fL 114b3M 114b9L 114baM 114bbL 114bfM 114c1L 114c2M 114c4L 115b2M 115b8L",
   "115bcM 115beL 115bfM 115c1L 115dcM 11600L 11633M 1163bL 1163dM 1163eL 1163fM 11641L 11660O",
   "11680L 116abM 116acL 116adM 116aeL 116b0M 116b6L 116b7M 116b8L 1171dM 1171eL 1171fM 11720L",
   "11722M 11726L 11727M 11730L 1182fM 11838L 11839M 1183bL 1193bM 1193dL 1193eM 1193fL 11943M",
   "11944L 119d4M 119dcL 119e0M 119e1L 11a01M 11a07L 11a09M 11a0bL 11a33M 11a39L 11a3bM 11a3fL",
   "11a47M 11a50L 11a51M 11a57L 11a59M 11a5cL 11a8aM 11a97L 11a98M 11a9aL 11b60M 11b61L 11b62M",
   "11b65L 11b66M 11b67L 11c30M 11c3eL 11c92M 11ca9L 11caaM 11cb1L 11cb2M 11cb4L 11cb5M 11d00L",
   "11d31M 11d46L 11d47M 11d50L 11d90M 11d93L 11d95M 11d96L 11d97M 11d98L 11ef3M 11ef5L 11f00M",
   "11f02L 11f36M 11f3eL 11f40M 11f41L 11f42M 11f43L 11f5aM 11fb0L 11fd5O 11fffL 13440M 13441L",
   "13447M 13460L 1611eM 1612aL 1612dM 16130L 16af0M 16af5L 16b30M 16b37L 16f4fM 16f50L 16f8fM",
   "16f93L 16fe2O 16fe3L 16fe4M 16ff0L 1bc9dM 1bc9fL 1cf00M 1cf50L 1d167M 1d16aL 1d17bM 1d183L",
   "1d185M 1d18cL 1d1aaM 1d1aeL 1d1e9O 1d242M 1d245O 1d2c0L 1d300O 1d360L 1da00M 1da37L 1da3bM",
   "1da6dL 1da75M 1da76L 1da84M 1da85L 1da9bM 1df00L 1e000M 1e100L 1e130M 1e137L 1e2aeM 1e2c0L",
   "1e2ecM 1e2f0L 1e2ffO 1e4d0L 1e4ecM 1e4f0L 1e5eeM 1e5f0L 1e6e3M 1e6e4L 1e6e6M 1e6e7L 1e6eeM",
   "1e6f0L 1e6f5M 1e6feL 1e800R 1e8d0M 1e922R 1e944M 1e94bR 1eef0O 1f150L 1f16dO 1f170L 1f1adO",
   "1f1e6L 1f260O 1f6d8L 1f6dcO 1f777L 1f77bO 1f8b2L 1f900O 1fa54L 1fa60O 1fa89L 1fa90O 1fabeL",
   "1fabfO 1fac6L 1faceO 1fadcL 1fae0O 1fae9L 1faf0O 1fbcbL"]

/-- Joining to the neighbours in cursive scripts: `D` on both sides, `R` on the right, `L` on the
left, `T` transparent, `U` none of these. -/
def joiningRows : List String :=
  ["0U 300T 371U 483T 48bU 591T 5beU 5bfT 5c0U 5c1T 5c3U 5c4T 5c6U 5c7T 5d0U 610T 61bU 620D",
   "621U 622R 626D 627R 628D 629R 62aD 62fR 633D 640U 641D 648R 649D 64bT 660U 66eD 670T 671R",
   "674U 679D 688R 69aD 6c0R 6c1D 6c3R 6ccD 6cdR 6ceD 6cfR 6d0D 6d2R 6d4U 6d5R 6d6T 6deU 6dfT",
   "6e5U 6e7T 6e9U 6eaT 6eeR 6f0U 6faD 6fdU 6ffD 700U 710R 711T 712D 715R 71aD 71eR 71fD 728R",
   "729D 72aR 72bD 72cR 72dD 72fR 730T 74dR 74eD 759R 75cD 76bR 76dD 771R 772D 773R 775D 778R",
   "77aD 780U 7a6T 7b1U 7caD 7ebT 7f4U 7fdT 7feU 816T 81aU 81bT 824U 825T 828U 829T 830U 840R",
   "841D 846R 848D 849R 84aD 854R 855D 856R 859T 85eU 860D 861U 862D 866U 867R 868D 869R 883U",
   "886D 887U 889D 88eR 88fD 897T 8a0D 8aaR 8adU 8aeR 8afD 8b1R 8b3D 8b9R 8baD 8c9U 8caT 903U",
   "93aT 93bU 93cT 93dU 941T 949U 94dT 94eU 951T 960U 962T 964U 981T 982U 9bcT 9bdU 9c1T 9c7U",
   "9cdT 9ceU 9e2T 9e6U 9feT a03U a3cT a3eU a41T a5cU a70T a72U a75T a76U a81T a83U abcT abdU",
   "ac1T ac9U acdT ad0U ae2T ae6U afaT b02U b3cT b3dU b3fT b40U b41T b47U b4dT b57U b62T b66U",
   "b82T b83U bc0T bc1U bcdT bd0U c00T c01U c04T c05U c3cT c3dU c3eT c41U c46T c58U c62T c66U",
   "c81T c82U cbcT cbdU cbfT cc0U cc6T cc7U cccT cd5U ce2T ce6U d00T d02U d3bT d3dU d41T d46U",
   "d4dT d4eU d62T d66U d81T d82U dcaT dcfU dd2T dd8U e31T e32U e34T e3fU e47T e4fU eb1T eb2U",
   "eb4T ebdU ec8T ed0U f18T f1aU f35T f36U f37T f38U f39T f3aU f71T f7fU f80T f85U f86T f88U",
   "f8dT fbeU fc6T fc7U 102dT 1031U 1032T 1038U 1039T 103bU 103dT 103fU 1058T 105aU 105eT",
   "1061U 1071T 1075U 1082T 1083U 1085T 1087U 108dT 108eU 109dT 109eU 135dT 1360U 1712T 1715U",
   "1732T 1734U 1752T 1760U 1772T 1780U 17b7T 17beU 17c6T 17c7U 17c9T 17d4U 17ddT 17e0U 1807D",
   "1808U 1820D 1880U 1885T 1887D 18a9T 18aaD 18b0U 1920T 1923U 1927T 1929U 1932T 1933U 1939T",
   "1940U 1a17T 1a19U 1a1bT 1a1eU 1a56T 1a57U 1a58T 1a61U 1a62T 1a63U 1a65T 1a6dU 1a73T 1a80U",
   "1ab0T 1b04U 1b34T 1b35U 1b36T 1b3bU 1b3cT 1b3dU 1b42T 1b43U 1b6bT 1b74U 1b80T 1b82U 1ba2T",
   "1ba6U 1ba8T 1baaU 1babT 1baeU 1be6T 1be7U 1be8T 1beaU 1bedT 1beeU 1befT 1bf2U 1c2cT 1c34U",
   "1c36T 1c3bU 1cd0T 1cd3U 1cd4T 1ce1U 1ce2T 1ce9U 1cedT 1ceeU 1cf4T 1cf5U 1cf8T 1cfaU 1dc0T",
   "1e01U 20d0T 2104U 2cefT 2cf3U 2d7fT 2d80U 2de0T 2e00U 302aT 302eU 3099T 309dU a66fT a673U",
   "a674T a67eU a69eT a6a0U a6f0T a6f2U a802T a803U a806T a807U a80bT a80cU a825T a827U a82cT",
   "a830U a840D a872L a873U a8c4T a8ceU a8e0T a8f2U a8ffT a900U a926T a92eU a947T a952U a980T",
   "a983U a9b3T a9b4U a9b6T a9baU a9bcT a9beU a9e5T a9e6U aa29T aa2fU aa31T aa33U aa35T aa40U",
   "aa43T aa44U aa4cT aa4dU aa7cT aa7dU aab0T aab1U aab2T aab5U aab7T aab9U aabeT aac0U aac1T",
   "aac2U aaecT aaeeU aaf6T ab01U abe5T abe6U abe8T abe9U abedT abf0U fb1eT fbb2U fe20T fe45U",
   "101fdT 10280U 102e0T 102e1U 10376T 10380U 10a01T 10a10U 10a38T 10a40U 10ac0D 10ac5R 10ac6U",
   "10ac7R 10ac8U 10ac9R 10acbU 10acdL 10aceR 10ad3D 10ad7L 10ad8D 10addR 10adeD 10ae1R 10ae2U",
   "10ae4R 10ae5T 10aebD 10aefR 10af0U 10b80D 10b81R 10b82D 10b83R 10b86D 10b89R 10b8aD 10b8cR",
   "10b8dD 10b8eR 10b90D 10b91R 10b99U 10ba9R 10badD 10bafU 10d00L 10d01D 10d22R 10d23D 10d24T",
   "10d30U 10d69T 10d6eU 10eabT 10eadU 10ec2R 10ec3D 10ec5U 10efaT 10f00U 10f30D 10f33R 10f34D",
   "10f45U 10f46T 10f51D 10f54R 10f55U 10f70D 10f74R 10f76D 10f82T 10f86U 10fb0D 10fb1U 10fb2D",
   "10fb4R 10fb7U 10fb8D 10fb9R 10fbbD 10fbdR 10fbeD 10fc0U 10fc1D 10fc2R 10fc4D 10fc5U 10fc9R",
   "10fcaD 10fcbL 10fe0U 11001T 11002U 11038T 11047U 11070T 11071U 11073T 11075U 1107fT 11082U",
   "110b3T 110b7U 110b9T 110bbU 110c2T 110d0U 11100T 11103U 11127T 1112cU 1112dT 11136U 11173T",
   "11174U 11180T 11182U 111b6T 111bfU 111c9T 111cdU 111cfT 111d0U 1122fT 11232U 11234T 11235U",
   "11236T 11238U 1123eT 1123fU 11241T 11280U 112dfT 112e0U 112e3T 112f0U 11300T 11302U 1133bT",
   "1133dU 11340T 11341U 11366T 11380U 113bbT 113c2U 113ceT 113cfU 113d0T 113d1U 113d2T 113d3U",
   "113e1T 11400U 11438T 11440U 11442T 11445U 11446T 11447U 1145eT 1145fU 114b3T 114b9U 114baT",
   "114bbU 114bfT 114c1U 114c2T 114c4U 115b2T 115b8U 115bcT 115beU 115bfT 115c1U 115dcT 11600U",
   "11633T 1163bU 1163dT 1163eU 1163fT 11641U 116abT 116acU 116adT 116aeU 116b0T 116b6U 116b7T",
   "116b8U 1171dT 1171eU 1171fT 11720U 11722T 11726U 11727T 11730U 1182fT 11838U 11839T 1183bU",
   "1193bT 1193dU 1193eT 1193fU 11943T 11944U 119d4T 119dcU 119e0T 119e1U 11a01T 11a0bU 11a33T",
   "11a39U 11a3bT 11a3fU 11a47T 11a50U 11a51T 11a57U 11a59T 11a5cU 11a8aT 11a97U 11a98T 11a9aU",
   "11b60T 11b61U 11b62T 11b65U 11b66T 11b67U 11c30T 11c3eU 11c3fT 11c40U 11c92T 11ca9U 11caaT",
   "11cb1U 11cb2T 11cb4U 11cb5T 11d00U 11d31T 11d46U 11d47T 11d50U 11d90T 11d93U 11d95T 11d96U",
   "11d97T 11d98U 11ef3T 11ef5U 11f00T 11f02U 11f36T 11f3eU 11f40T 11f41U 11f42T 11f43U 11f5aT",
   "11fb0U 13440T 13441U 13447T 13460U 1611eT 1612aU 1612dT 16130U 16af0T 16af5U 16b30T 16b37U",
   "16f4fT 16f50U 16f8fT 16f93U 16fe4T 16ff0U 1bc9dT 1bc9fU 1cf00T 1cf50U 1d167T 1d16aU 1d17bT",
   "1d183U 1d185T 1d18cU 1d1aaT 1d1aeU 1d242T 1d245U 1da00T 1da37U 1da3bT 1da6dU 1da75T 1da76U",
   "1da84T 1da85U 1da9bT 1df00U 1e000T 1e100U 1e130T 1e137U 1e2aeT 1e2c0U 1e2ecT 1e2f0U 1e4ecT",
   "1e4f0U 1e5eeT 1e5f0U 1e6e3T 1e6e4U 1e6e6T 1e6e7U 1e6eeT 1e6f0U 1e6f5T 1e6feU 1e8d0T 1e922D",
   "1e944T 1e950U"]

/-- Combining marks: `V` a mark that suppresses a vowel (combining class 9), `M` any other mark,
`O` no mark. -/
def markRows : List String :=
  ["0O 300M 371O 483M 48bO 591M 5beO 5bfM 5c0O 5c1M 5c3O 5c4M 5c6O 5c7M 5d0O 610M 61bO 64bM",
   "660O 670M 671O 6d6M 6deO 6dfM 6e5O 6e7M 6e9O 6eaM 6eeO 711M 712O 730M 74dO 7a6M 7b1O 7ebM",
   "7f4O 7fdM 7feO 816M 81aO 81bM 824O 825M 828O 829M 830O 859M 85eO 897M 8a0O 8caM 904O 93aM",
   "93dO 93eM 94dV 94eM 950O 951M 960O 962M 964O 981M 985O 9bcM 9bdO 9beM 9cdV 9ceO 9d7M 9e0O",
   "9e2M 9e6O 9feM a05O a3cM a4dV a51M a5cO a70M a72O a75M a76O a81M a85O abcM abdO abeM acdV",
   "ad0O ae2M ae6O afaM b05O b3cM b3dO b3eM b4dV b55M b5fO b62M b66O b82M b83O bbeM bcdV bd0O",
   "bd7M be6O c00M c05O c3cM c3dO c3eM c4dV c55M c58O c62M c66O c81M c84O cbcM cbdO cbeM ccdV",
   "cd5M cdcO ce2M ce6O cf3M d04O d3bV d3dO d3eM d4dV d4eO d57M d58O d62M d66O d81M d85O dcaV",
   "dcfM de6O df2M df4O e31M e32O e34M e3aV e3fO e47M e4fO eb1M eb2O eb4M ebaV ebbM ebdO ec8M",
   "ed0O f18M f1aO f35M f36O f37M f38O f39M f3aO f3eM f40O f71M f84V f85O f86M f88O f8dM fbeO",
   "fc6M fc7O 102bM 1039V 103bM 103fO 1056M 105aO 105eM 1061O 1062M 1065O 1067M 106eO 1071M",
   "1075O 1082M 108eO 108fM 1090O 109aM 109eO 135dM 1360O 1712M 1714V 171fO 1732M 1734V 1735O",
   "1752M 1760O 1772M 1780O 17b6M 17d2V 17d3M 17d4O 17ddM 17e0O 1885M 1887O 18a9M 18aaO 1920M",
   "1940O 1a17M 1a1eO 1a55M 1a60V 1a61M 1a80O 1ab0M 1b05O 1b34M 1b44V 1b45O 1b6bM 1b74O 1b80M",
   "1b83O 1ba1M 1baaV 1bacM 1baeO 1be6M 1bf2V 1bfcO 1c24M 1c3bO 1cd0M 1cd3O 1cd4M 1ce9O 1cedM",
   "1ceeO 1cf4M 1cf5O 1cf7M 1cfaO 1dc0M 1e01O 20d0M 2104O 2cefM 2cf3O 2d7fV 2d80O 2de0M 2e00O",
   "302aM 3030O 3099M 309dO a66fM a673O a674M a67eO a69eM a6a0O a6f0M a6f2O a802M a803O a806V",
   "a807O a80bM a80cO a823M a828O a82cV a830O a880M a882O a8b4M a8c4V a8c5M a8ceO a8e0M a8f2O",
   "a8ffM a900O a926M a92eO a947M a953V a95fO a980M a984O a9b3M a9c0V a9c1O a9e5M a9e6O aa29M",
   "aa40O aa43M aa44O aa4cM aa50O aa7bM aa7eO aab0M aab1O aab2M aab5O aab7M aab9O aabeM aac0O",
   "aac1M aac2O aaebM aaf0O aaf5M aaf6V ab01O abe3M abebO abecM abedV abf0O fb1eM fbb2O fe20M",
   "fe45O 101fdM 10280O 102e0M 102e1O 10376M 10380O 10a01M 10a10O 10a38M 10a3fV 10a40O 10ae5M",
   "10aebO 10d24M 10d30O 10d69M 10d6eO 10eabM 10eadO 10efaM 10f00O 10f46M 10f51O 10f82M 10f86O",
   "11000M 11003O 11038M 11046V 11047O 11070V 11071O 11073M 11075O 1107fV 11080M 11083O 110b0M",
   "110b9V 110baM 110bbO 110c2M 110d0O 11100M 11103O 11127M 11133V 11136O 11145M 11147O 11173M",
   "11174O 11180M 11183O 111b3M 111c0V 111c1O 111c9M 111cdO 111ceM 111d0O 1122cM 11235V 11236M",
   "11238O 1123eM 1123fO 11241M 11280O 112dfM 112eaV 112f0O 11300M 11305O 1133bM 1133dO 1133eM",
   "1134dV 11350O 11357M 1135dO 11362M 11380O 113b8M 113ceV 113d1O 113d2M 113d3O 113e1M 11400O",
   "11435M 11442V 11443M 11447O 1145eM 1145fO 114b0M 114c2V 114c3M 114c4O 115afM 115bfV 115c0M",
   "115c1O 115dcM 11600O 11630M 1163fV 11640M 11641O 116abM 116b6V 116b7M 116b8O 1171dM 1172bV",
   "11730O 1182cM 11839V 1183aM 1183bO 11930M 1193dV 1193fO 11940M 11941O 11942M 11944O 119d1M",
   "119e0V 119e1O 119e4M 11a00O 11a01M 11a0bO 11a33M 11a34V 11a35M 11a3aO 11a3bM 11a3fO 11a47V",
   "11a50O 11a51M 11a5cO 11a8aM 11a99V 11a9aO 11b60M 11bc0O 11c2fM 11c3fV 11c40O 11c92M 11d00O",
   "11d31M 11d44V 11d46O 11d47M 11d50O 11d8aM 11d97V 11d98O 11ef3M 11ef7O 11f00M 11f02O 11f03M",
   "11f04O 11f34M 11f41V 11f43O 11f5aM 11fb0O 13440M 13441O 13447M 13460O 1611eM 1612fV 16130O",
   "16af0M 16af5O 16b30M 16b37O 16f4fM 16f50O 16f51M 16f93O 16fe4M 16ff2O 1bc9dM 1bc9fO 1cf00M",
   "1cf50O 1d165M 1d16aO 1d16dM 1d183O 1d185M 1d18cO 1d1aaM 1d1aeO 1d242M 1d245O 1da00M 1da37O",
   "1da3bM 1da6dO 1da75M 1da76O 1da84M 1da85O 1da9bM 1df00O 1e000M 1e100O 1e130M 1e137O 1e2aeM",
   "1e2c0O 1e2ecM 1e2f0O 1e4ecM 1e4f0O 1e5eeM 1e5f0O 1e6e3M 1e6e4O 1e6e6M 1e6e7O 1e6eeM 1e6f0O",
   "1e6f5M 1e6feO 1e8d0M 1e922O 1e944M 1e94bO"]

end SoapGateway.Idna

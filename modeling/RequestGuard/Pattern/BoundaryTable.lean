/-!
# Patterns: the age of characters, and what they do at boundaries

A character was added in one version, and it belongs to one class for each kind of boundary: of
characters as a reader sees them, of words and of sentences.  A row holds the names of a set,
without capitals, blanks, hyphens and underscores, and the bounds of its runs.
-/

namespace RequestGuard
namespace Pattern
namespace BoundaryTable

/-- The characters that each version added, the oldest version first. -/
def ages : List (String × String) :=
  [("1.1 v11", "0 1f6 1fa 218 250 2a9 2b0 2df 2e0 2ea 300 346 360 362 374 376 37a 37b 37e 37f 384
38b 38c 38d 38e 3a2 3a3 3cf 3d0 3d7 3da 3db 3dc 3dd 3de 3df 3e0 3e1 3e2 3f4 401 40d 40e 450 451
45d 45e 487 490 4c5 4c7 4c9 4cb 4cd 4d0 4ec 4ee 4f6 4f8 4fa 531 557 559 560 561 588 589 58a 5b0
5ba 5bb 5c4 5d0 5eb 5f0 5f5 60c 60d 61b 61c 61f 620 621 63b 640 653 660 66e 670 6b8 6ba 6bf 6c0
6cf 6d0 6ee 6f0 6fa 901 904 905 93a 93c 94e 950 955 958 971 981 984 985 98d 98f 991 993 9a9 9aa
9b1 9b2 9b3 9b6 9ba 9bc 9bd 9be 9c5 9c7 9c9 9cb 9ce 9d7 9d8 9dc 9de 9df 9e4 9e6 9fb a02 a03 a05
a0b a0f a11 a13 a29 a2a a31 a32 a34 a35 a37 a38 a3a a3c a3d a3e a43 a47 a49 a4b a4e a59 a5d a5e
a5f a66 a75 a81 a84 a85 a8c a8d a8e a8f a92 a93 aa9 aaa ab1 ab2 ab4 ab5 aba abc ac6 ac7 aca acb
ace ad0 ad1 ae0 ae1 ae6 af0 b01 b04 b05 b0d b0f b11 b13 b29 b2a b31 b32 b34 b36 b3a b3c b44 b47
b49 b4b b4e b56 b58 b5c b5e b5f b62 b66 b71 b82 b84 b85 b8b b8e b91 b92 b96 b99 b9b b9c b9d b9e
ba0 ba3 ba5 ba8 bab bae bb6 bb7 bba bbe bc3 bc6 bc9 bca bce bd7 bd8 be7 bf3 c01 c04 c05 c0d c0e
c11 c12 c29 c2a c34 c35 c3a c3e c45 c46 c49 c4a c4e c55 c57 c60 c62 c66 c70 c82 c84 c85 c8d c8e
c91 c92 ca9 caa cb4 cb5 cba cbe cc5 cc6 cc9 cca cce cd5 cd7 cde cdf ce0 ce2 ce6 cf0 d02 d04 d05
d0d d0e d11 d12 d29 d2a d3a d3e d44 d46 d49 d4a d4e d57 d58 d60 d62 d66 d70 e01 e3b e3f e5c e81
e83 e84 e85 e87 e89 e8a e8b e8d e8e e94 e98 e99 ea0 ea1 ea4 ea5 ea6 ea7 ea8 eaa eac ead eba ebb
ebe ec0 ec5 ec6 ec7 ec8 ece ed0 eda edc ede 10a0 10c6 10d0 10f7 10fb 10fc 1100 115a 115f 11a3
11a8 11fa 1e00 1e9b 1ea0 1efa 1f00 1f16 1f18 1f1e 1f20 1f46 1f48 1f4e 1f50 1f58 1f59 1f5a 1f5b
1f5c 1f5d 1f5e 1f5f 1f7e 1f80 1fb5 1fb6 1fc5 1fc6 1fd4 1fd6 1fdc 1fdd 1ff0 1ff2 1ff5 1ff6 1fff
2000 202f 2030 2047 206a 2071 2074 208f 20a0 20ab 20d0 20e2 2100 2139 2153 2183 2190 21eb 2200
22f2 2300 2301 2302 237b 2400 2425 2440 244b 2460 24eb 2500 2596 25a0 25f0 2600 2614 261a 2670
2701 2705 2706 270a 270c 2728 2729 274c 274d 274e 274f 2753 2756 2757 2758 275f 2761 2768 2776
2795 2798 27b0 27b1 27bf 3000 3038 303f 3040 3041 3095 3099 309f 30a1 30ff 3105 312d 3131 318f
3190 31a0 3200 321d 3220 3244 3260 327c 327f 32b1 32c0 32cc 32d0 32ff 3300 3377 337b 33de 33e0
33ff 4e00 9fa6 e000 fa2e fb00 fb07 fb13 fb18 fb1e fb37 fb38 fb3d fb3e fb3f fb40 fb42 fb43 fb45
fb46 fbb2 fbd3 fd40 fd50 fd90 fd92 fdc8 fdf0 fdfc fe20 fe24 fe30 fe45 fe49 fe53 fe54 fe67 fe68
fe6c fe70 fe73 fe74 fe75 fe76 fefd feff ff00 ff01 ff5f ff61 ffbf ffc2 ffc8 ffca ffd0 ffd2 ffd8
ffda ffdd ffe0 ffe7 ffe8 ffef fffd 10000"),
    ("2.0 v20", "591 5a2 5a3 5b0 5c4 5c5 f00 f48 f49 f6a f71 f8c f90 f96 f97 f98 f99 fae fb1 fb8
fb9 fba 1e9b 1e9c 20ab 20ac ac00 d7a4 1fffe 20000 2fffe 30000 3fffe 40000 4fffe 50000 5fffe 60000
6fffe 70000 7fffe 80000 8fffe 90000 9fffe a0000 afffe b0000 bfffe c0000 cfffe d0000 dfffe e0000
efffe 110000"),
    ("2.1 v21", "20ac 20ad fffc fffd"),
    ("3.0 v30", "1f6 1fa 218 220 222 234 2a9 2ae 2df 2e0 2ea 2ef 346 34f 362 363 3d7 3d8 3db 3dc
3dd 3de 3df 3e0 3e1 3e2 400 401 40d 40e 450 451 45d 45e 488 48a 48c 490 4ec 4ee 58a 58b 653 656
6b8 6ba 6bf 6c0 6cf 6d0 6fa 6ff 700 70e 70f 72d 730 74b 780 7b1 d82 d84 d85 d97 d9a db2 db3 dbc
dbd dbe dc0 dc7 dca dcb dcf dd5 dd6 dd7 dd8 de0 df2 df5 f6a f6b f96 f97 fae fb1 fb8 fb9 fba fbd
fbe fcd fcf fd0 1000 1022 1023 1028 1029 102b 102c 1033 1036 103a 1040 105a 1200 1207 1208 1247
1248 1249 124a 124e 1250 1257 1258 1259 125a 125e 1260 1287 1288 1289 128a 128e 1290 12af 12b0
12b1 12b2 12b6 12b8 12bf 12c0 12c1 12c2 12c6 12c8 12cf 12d0 12d7 12d8 12ef 12f0 130f 1310 1311
1312 1316 1318 131f 1320 1347 1348 135b 1361 137d 13a0 13f5 1401 1677 1680 169d 16a0 16f1 1780
17dd 17e0 17ea 1800 180f 1810 181a 1820 1878 1880 18aa 202f 2030 2048 204e 20ad 20b0 20e2 20e4
2139 213b 2183 2184 21eb 21f4 2301 2302 237b 237c 237d 239b 2425 2427 25f0 25f8 2619 261a 2670
2672 2800 2900 2e80 2e9a 2e9b 2ef4 2f00 2fd6 2ff0 2ffc 3038 303b 303e 303f 31a0 31b8 3400 4db6
a000 a48d a490 a4a2 a4a4 a4b4 a4b5 a4c1 a4c2 a4c5 a4c6 a4c7 fb1d fb1e fff9 fffc"),
    ("3.1 v31", "3f4 3f6 fdd0 fdf0 10300 1031f 10320 10324 10330 1034b 10400 10426 10428 1044e
1d000 1d0f6 1d100 1d127 1d12a 1d1de 1d400 1d455 1d456 1d49d 1d49e 1d4a0 1d4a2 1d4a3 1d4a5 1d4a7
1d4a9 1d4ad 1d4ae 1d4ba 1d4bb 1d4bc 1d4bd 1d4c1 1d4c2 1d4c4 1d4c5 1d506 1d507 1d50b 1d50d 1d515
1d516 1d51d 1d51e 1d53a 1d53b 1d53f 1d540 1d545 1d546 1d547 1d54a 1d551 1d552 1d6a4 1d6a8 1d7ca
1d7ce 1d800 20000 2a6d7 2f800 2fa1e e0001 e0002 e0020 e0080"),
    ("3.2 v32", "220 221 34f 350 363 370 3d8 3da 3f6 3f7 48a 48c 4c5 4c7 4c9 4cb 4cd 4cf 500 510
66e 670 7b1 7b2 10f7 10f9 1700 170d 170e 1715 1720 1737 1740 1754 1760 176d 176e 1771 1772 1774
2047 2048 204e 2053 2057 2058 205f 2064 2071 2072 20b0 20b2 20e4 20eb 213d 214c 21f4 2200 22f2
2300 237c 237d 239b 23cf 24eb 24ff 2596 25a0 25f8 2600 2616 2618 2672 267e 2680 268a 2768 2776
27d0 27ec 27f0 2800 2900 2b00 303b 303e 3095 3097 309f 30a1 30ff 3100 31f0 3200 3251 3260 32b1
32c0 a4a2 a4a4 a4b4 a4b5 a4c1 a4c2 a4c5 a4c6 fa30 fa6b fdfc fdfd fe00 fe10 fe45 fe47 fe73 fe74
ff5f ff61"),
    ("4.0 v40", "221 222 234 237 2ae 2b0 2ef 300 350 358 35d 360 3f7 3fc 600 604 60d 616 656 659
6ee 6f0 6ff 700 72d 730 74d 750 904 905 9bd 9be a01 a02 a03 a04 a8c a8d ae1 ae4 af1 af2 b35 b36
b71 b72 bf3 bfb cbc cbe 17dd 17de 17f0 17fa 1900 191d 1920 192c 1930 193c 1940 1941 1944 196e
1970 1975 19e0 1a00 1d00 1d6c 2053 2055 213b 213c 23cf 23d1 24ff 2500 2614 2616 268a 2692 26a0
26a2 2b00 2b0e 321d 321f 3250 3251 327c 327e 32cc 32d0 3377 337b 33de 33e0 33ff 3400 4dc0 4e00
fdfd fdfe fe47 fe49 10000 1000c 1000d 10027 10028 1003b 1003c 1003e 1003f 1004e 10050 1005e 10080
100fb 10100 10103 10107 10134 10137 10140 10380 1039e 1039f 103a0 10426 10428 1044e 1049e 104a0
104aa 10800 10806 10808 10809 1080a 10836 10837 10839 1083c 1083d 1083f 10840 1d300 1d357 1d4c1
1d4c2 e0100 e01f0"),
    ("4.1 v41", "237 242 358 35d 3fc 400 4f6 4f8 5a2 5a3 5c5 5c8 60b 60c 61e 61f 659 65f 750 76e
97d 97e 9ce 9cf bb6 bb7 be6 be7 fd0 fd2 10f9 10fb 10fc 10fd 1207 1208 1247 1248 1287 1288 12af
12b0 12cf 12d0 12ef 12f0 130f 1310 131f 1320 1347 1348 135f 1361 1380 139a 1980 19aa 19b0 19ca
19d0 19da 19de 19e0 1a00 1a1c 1a1e 1a20 1d6c 1dc4 2055 2057 2058 205f 2090 2095 20b2 20b6 20eb
20ec 213c 213d 214c 214d 23d1 23dc 2618 2619 267e 2680 2692 269d 26a2 26b2 27c0 27c7 2b0e 2b14
2c00 2c2f 2c30 2c5f 2c80 2ceb 2cf9 2d26 2d30 2d66 2d6f 2d70 2d80 2d97 2da0 2da7 2da8 2daf 2db0
2db7 2db8 2dbf 2dc0 2dc7 2dc8 2dcf 2dd0 2dd7 2dd8 2ddf 2e00 2e18 2e1c 2e1e 31c0 31d0 327e 327f
9fa6 9fbc a700 a717 a800 a82c fa70 fada fe10 fe1a 10140 1018b 103a0 103c4 103c8 103d6 10a00 10a04
10a05 10a07 10a0c 10a14 10a15 10a18 10a19 10a34 10a38 10a3b 10a3f 10a48 10a50 10a59 1d200 1d246
1d6a4 1d6a6"),
    ("5.0 v50", "242 250 37b 37e 4cf 4d0 4fa 500 510 514 5ba 5bb 7c0 7fb 97b 97d 97e 980 ce2 ce4
cf1 cf3 1b00 1b4c 1b50 1b7d 1dc4 1dcb 1dfe 1e00 20ec 20f0 214d 214f 2184 2185 23dc 23e8 26b2 26b3
27c7 27cb 2b14 2b1b 2b20 2b24 2c60 2c6d 2c74 2c78 a717 a71b a720 a722 a840 a878 10900 1091a 1091f
10920 12000 1236f 12400 12463 12470 12474 1d360 1d372 1d7ca 1d7cc"),
    ("5.1 v51", "370 374 376 378 3cf 3d0 487 488 514 524 606 60b 616 61b 63b 640 76e 780 971 973
a51 a52 a75 a76 b44 b45 b62 b64 bd0 bd1 c3d c3e c58 c5a c62 c64 c78 c80 d3d d3e d44 d45 d62 d64
d70 d76 d79 d80 f6b f6d fce fcf fd2 fd5 1022 1023 1028 1029 102b 102c 1033 1036 103a 1040 105a
109a 109e 10a0 18aa 18ab 1b80 1bab 1bae 1bba 1c00 1c38 1c3b 1c4a 1c4d 1c80 1dcb 1de7 1e9c 1ea0
1efa 1f00 2064 2065 20f0 20f1 214f 2150 2185 2189 269d 269e 26b3 26bd 26c0 26c4 27cc 27cd 27ec
27f0 2b1b 2b20 2b24 2b4d 2b50 2b55 2c6d 2c70 2c71 2c74 2c78 2c7e 2de0 2e00 2e18 2e1c 2e1e 2e31
312d 312e 31d0 31e4 9fbc 9fc4 a500 a62c a640 a660 a662 a674 a67c a698 a71b a720 a722 a78d a7fb
a800 a880 a8c5 a8ce a8da a900 a954 a95f a960 aa00 aa37 aa40 aa4e aa50 aa5a aa5c aa60 fe24 fe27
10190 1019c 101d0 101fe 10280 1029d 102a0 102d1 10920 1093a 1093f 10940 1d129 1d12a 1f000 1f02c
1f030 1f094"),
    ("5.2 v52", "524 526 800 82e 830 83f 900 901 94e 94f 955 956 979 97b 9fb 9fc fd5 fd9 109a
109e 115a 115f 11a3 11a8 11fa 1200 1400 1401 1677 1680 18b0 18f6 19aa 19ac 19da 19db 1a20 1a5f
1a60 1a7d 1a7f 1a8a 1a90 1a9a 1aa0 1aae 1cd0 1cf3 1dfd 1dfe 20b6 20b9 2150 2153 2189 218a 23e8
23e9 269e 26a0 26bd 26c0 26c4 26ce 26cf 26e2 26e3 26e4 26e8 2700 2757 2758 2b55 2b5a 2c70 2c71
2c7e 2c80 2ceb 2cf2 2e31 2e32 3244 3250 9fc4 9fcc a4d0 a500 a6a0 a6f8 a830 a83a a8e0 a8fc a960
a97d a980 a9ce a9cf a9da a9de a9e0 aa60 aa7c aa80 aac3 aadb aae0 abc0 abee abf0 abfa d7b0 d7c7
d7cb d7fc fa6b fa6e 10840 10856 10857 10860 1091a 1091c 10a60 10a80 10b00 10b36 10b39 10b56 10b58
10b73 10b78 10b80 10c00 10c49 10e60 10e7f 11080 110c2 13000 1342f 1f100 1f10b 1f110 1f12f 1f131
1f132 1f13d 1f13e 1f13f 1f140 1f142 1f143 1f146 1f147 1f14a 1f14f 1f157 1f158 1f15f 1f160 1f179
1f17a 1f17b 1f17d 1f17f 1f180 1f18a 1f18e 1f190 1f191 1f200 1f201 1f210 1f232 1f240 1f249 2a700
2b735"),
    ("6.0 v60", "526 528 620 621 65f 660 840 85c 85e 85f 93a 93c 94f 950 956 958 973 978 b72 b78
d29 d2a d3a d3b d4e d4f f8c f90 fd9 fdb 135d 135f 1bc0 1bf4 1bfc 1c00 1dfc 1dfd 2095 209d 20b9
20ba 23e9 23f4 26ce 26cf 26e2 26e3 26e4 26e8 2705 2706 270a 270c 2728 2729 274c 274d 274e 274f
2753 2756 275f 2761 2795 2798 27b0 27b1 27bf 27c0 27ce 27d0 2d70 2d71 2d7f 2d80 31b8 31bb a660
a662 a78d a78f a790 a792 a7a0 a7aa a7fa a7fb ab01 ab07 ab09 ab0f ab11 ab17 ab20 ab27 ab28 ab2f
fbb2 fbc2 11000 1104e 11052 11070 16800 16a39 1b000 1b002 1f0a0 1f0af 1f0b1 1f0bf 1f0c1 1f0d0
1f0d1 1f0e0 1f130 1f131 1f132 1f13d 1f13e 1f13f 1f140 1f142 1f143 1f146 1f147 1f14a 1f14f 1f157
1f158 1f15f 1f160 1f16a 1f170 1f179 1f17a 1f17b 1f17d 1f17f 1f180 1f18a 1f18e 1f190 1f191 1f19b
1f1e6 1f200 1f201 1f203 1f232 1f23b 1f250 1f252 1f300 1f321 1f330 1f336 1f337 1f37d 1f380 1f394
1f3a0 1f3c5 1f3c6 1f3cb 1f3e0 1f3f1 1f400 1f43f 1f440 1f441 1f442 1f4f8 1f4f9 1f4fd 1f500 1f53e
1f550 1f568 1f5fb 1f600 1f601 1f611 1f612 1f615 1f616 1f617 1f618 1f619 1f61a 1f61b 1f61c 1f61f
1f620 1f626 1f628 1f62c 1f62d 1f62e 1f630 1f634 1f635 1f641 1f645 1f650 1f680 1f6c6 1f700 1f774
2b740 2b81e"),
    ("6.1 v61", "58f 590 604 605 8a0 8a1 8a2 8ad 8e4 8ff af0 af1 ede ee0 10c7 10c8 10cd 10ce 10fd
1100 1bab 1bae 1bba 1bc0 1cc0 1cc8 1cf3 1cf7 27cb 27cc 27cd 27ce 2cf2 2cf4 2d27 2d28 2d2d 2d2e
2d66 2d68 2e32 2e3c 9fcc 9fcd a674 a67c a69f a6a0 a792 a794 a7aa a7ab a7f8 a7fa aae0 aaf7 fa2e
fa30 10980 109b8 109be 109c0 110d0 110e9 110f0 110fa 11100 11135 11136 11144 11180 111c9 111d0
111da 11680 116b8 116c0 116ca 16f00 16f45 16f50 16f7f 16f8f 16fa0 1ee00 1ee04 1ee05 1ee20 1ee21
1ee23 1ee24 1ee25 1ee27 1ee28 1ee29 1ee33 1ee34 1ee38 1ee39 1ee3a 1ee3b 1ee3c 1ee42 1ee43 1ee47
1ee48 1ee49 1ee4a 1ee4b 1ee4c 1ee4d 1ee50 1ee51 1ee53 1ee54 1ee55 1ee57 1ee58 1ee59 1ee5a 1ee5b
1ee5c 1ee5d 1ee5e 1ee5f 1ee60 1ee61 1ee63 1ee64 1ee65 1ee67 1ee6b 1ee6c 1ee73 1ee74 1ee78 1ee79
1ee7d 1ee7e 1ee7f 1ee80 1ee8a 1ee8b 1ee9c 1eea1 1eea4 1eea5 1eeaa 1eeab 1eebc 1eef0 1eef2 1f16a
1f16c 1f540 1f544 1f600 1f601 1f611 1f612 1f615 1f616 1f617 1f618 1f619 1f61a 1f61b 1f61c 1f61f
1f620 1f626 1f628 1f62c 1f62d 1f62e 1f630 1f634 1f635"),
    ("6.2 v62", "20ba 20bb"),
    ("6.3 v63", "61c 61d 2066 206a"),
    ("7.0 v70", "37f 380 528 530 58d 58f 605 606 8a1 8a2 8ad 8b3 8ff 900 978 979 980 981 c00 c01
c34 c35 c81 c82 d01 d02 de6 df0 16f1 16f9 191d 191f 1ab0 1abf 1cf8 1cfa 1de7 1df6 20bb 20be 23f4
23fb 2700 2701 2b4d 2b50 2b5a 2b74 2b76 2b96 2b98 2bba 2bbd 2bc9 2bca 2bd2 2e3c 2e43 a698 a69e
a794 a7a0 a7ab a7ae a7b0 a7b2 a7f7 a7f8 a9e0 a9ff aa7c aa80 ab30 ab60 ab64 ab66 fe27 fe2e 1018b
1018d 101a0 101a1 102e0 102fc 1031f 10320 10350 1037b 10500 10528 10530 10564 1056f 10570 10600
10737 10740 10756 10760 10768 10860 1089f 108a7 108b0 10a80 10aa0 10ac0 10ae7 10aeb 10af7 10b80
10b92 10b99 10b9d 10ba9 10bb0 1107f 11080 11150 11177 111cd 111ce 111da 111db 111e1 111f5 11200
11212 11213 1123e 112b0 112eb 112f0 112fa 11301 11304 11305 1130d 1130f 11311 11313 11329 1132a
11331 11332 11334 11335 1133a 1133c 11345 11347 11349 1134b 1134e 11357 11358 1135d 11364 11366
1136d 11370 11375 11480 114c8 114d0 114da 11580 115b6 115b8 115ca 11600 11645 11650 1165a 118a0
118f3 118ff 11900 11ac0 11af9 1236f 12399 12463 1246f 12474 12475 16a40 16a5f 16a60 16a6a 16a6e
16a70 16ad0 16aee 16af0 16af6 16b00 16b46 16b50 16b5a 16b5b 16b62 16b63 16b78 16b7d 16b90 1bc00
1bc6b 1bc70 1bc7d 1bc80 1bc89 1bc90 1bc9a 1bc9c 1bca4 1e800 1e8c5 1e8c7 1e8d7 1f0bf 1f0c0 1f0e0
1f0f6 1f10b 1f10d 1f321 1f32d 1f336 1f337 1f37d 1f37e 1f394 1f3a0 1f3c5 1f3c6 1f3cb 1f3cf 1f3d4
1f3e0 1f3f1 1f3f8 1f43f 1f440 1f441 1f442 1f4f8 1f4f9 1f4fd 1f4ff 1f53e 1f540 1f544 1f54b 1f568
1f57a 1f57b 1f5a4 1f5a5 1f5fb 1f641 1f643 1f650 1f680 1f6c6 1f6d0 1f6e0 1f6ed 1f6f0 1f6f4 1f780
1f7d5 1f800 1f80c 1f810 1f848 1f850 1f85a 1f860 1f888 1f890 1f8ae"),
    ("8.0 v80", "8b3 8b5 8e3 8e4 af9 afa c5a c5b d5f d60 13f5 13f6 13f8 13fe 20be 20bf 218a 218c
2bec 2bf0 9fcd 9fd6 a69e a69f a78f a790 a7b2 a7b8 a8fc a8fe ab60 ab64 ab70 abc0 fe2e fe30 108e0
108f3 108f4 108f6 108fb 10900 109bc 109be 109c0 109d0 109d2 10a00 10c80 10cb3 10cc0 10cf3 10cfa
10d00 111c9 111cd 111db 111e0 11280 11287 11288 11289 1128a 1128e 1128f 1129e 1129f 112aa 11300
11301 11350 11351 115ca 115de 11700 1171a 1171d 1172c 11730 11740 12399 1239a 12480 12544 14400
14647 1d1de 1d1e9 1d800 1da8c 1da9b 1daa0 1daa1 1dab0 1f32d 1f330 1f37e 1f380 1f3cf 1f3d4 1f3f8
1f400 1f4ff 1f500 1f54b 1f550 1f643 1f645 1f6d0 1f6d1 1f910 1f919 1f980 1f985 1f9c0 1f9c1 2b820
2cea2"),
    ("9.0 v90", "8b6 8be 8d4 8e3 c80 c81 d4f d50 d54 d57 d58 d5f d76 d79 1c80 1c89 1dfb 1dfc 23fb
23ff 2e43 2e45 a7ae a7af a8c5 a8c6 1018d 1018f 104b0 104d4 104d8 104fc 1123e 1123f 11400 1145a
1145b 1145c 1145d 1145e 11660 1166d 11c00 11c09 11c0a 11c37 11c38 11c46 11c50 11c6d 11c70 11c90
11c92 11ca8 11ca9 11cb7 16fe0 16fe1 17000 187ed 18800 18af3 1e000 1e007 1e008 1e019 1e01b 1e022
1e023 1e025 1e026 1e02b 1e900 1e94b 1e950 1e95a 1e95e 1e960 1f19b 1f1ad 1f23b 1f23c 1f57a 1f57b
1f5a4 1f5a5 1f6d1 1f6d3 1f6f4 1f6f7 1f919 1f91f 1f920 1f928 1f930 1f931 1f933 1f93f 1f940 1f94c
1f950 1f95f 1f985 1f992"),
    ("10.0 v100", "860 86b 9fc 9fe afa b00 d00 d01 d3b d3d 1cf7 1cf8 1df6 1dfa 20bf 20c0 23ff
2400 2bd2 2bd3 2e45 2e4a 312e 312f 9fd6 9feb 1032d 10330 11a00 11a48 11a50 11a84 11a86 11a9d
11a9e 11aa3 11d00 11d07 11d08 11d0a 11d0b 11d37 11d3a 11d3b 11d3c 11d3e 11d3f 11d48 11d50 11d5a
16fe1 16fe2 1b002 1b11f 1b170 1b2fc 1f260 1f266 1f6d3 1f6d5 1f6f7 1f6f9 1f900 1f90c 1f91f 1f920
1f928 1f930 1f931 1f933 1f94c 1f94d 1f95f 1f96c 1f992 1f998 1f9d0 1f9e7 2ceb0 2ebe1"),
    ("11.0 v110", "560 561 588 589 5ef 5f0 7fd 800 8d3 8d4 9fe 9ff a76 a77 c04 c05 c84 c85 1878
1879 1c90 1cbb 1cbd 1cc0 2bba 2bbd 2bd3 2bec 2bf0 2bff 2e4a 2e4f 312f 3130 9feb 9ff0 a7af a7b0
a7b8 a7ba a8fe a900 10a34 10a36 10a48 10a49 10d00 10d28 10d30 10d3a 10f00 10f28 10f30 10f5a 110cd
110ce 11144 11147 1133b 1133c 1145e 1145f 1171a 1171b 11800 1183c 11a9d 11a9e 11d60 11d66 11d67
11d69 11d6a 11d8f 11d90 11d92 11d93 11d99 11da0 11daa 11ee0 11ef9 16e40 16e9b 187ed 187f2 1d2e0
1d2f4 1d372 1d379 1ec71 1ecb5 1f12f 1f130 1f6f9 1f6fa 1f7d5 1f7d9 1f94d 1f950 1f96c 1f971 1f973
1f977 1f97a 1f97b 1f97c 1f980 1f998 1f9a3 1f9b0 1f9ba 1f9c1 1f9c3 1f9e7 1fa00 1fa60 1fa6e"),
    ("12.0 v120", "c77 c78 e86 e87 e89 e8a e8c e8d e8e e94 e98 e99 ea0 ea1 ea8 eaa eac ead eba
ebb 1cfa 1cfb 2bc9 2bca 2bff 2c00 2e4f 2e50 a7ba a7c0 a7c2 a7c7 ab66 ab68 10fe0 10ff7 1145f 11460
116b8 116b9 119a0 119a8 119aa 119d8 119da 119e5 11a84 11a86 11fc0 11ff2 11fff 12000 13430 13439
16f45 16f4b 16f4f 16f50 16f7f 16f88 16fe2 16fe4 187f2 187f8 1b150 1b153 1b164 1b168 1e100 1e12d
1e130 1e13e 1e140 1e14a 1e14e 1e150 1e2c0 1e2fa 1e2ff 1e300 1e94b 1e94c 1ed01 1ed3e 1f16c 1f16d
1f6d5 1f6d6 1f6fa 1f6fb 1f7e0 1f7ec 1f90d 1f910 1f93f 1f940 1f971 1f972 1f97b 1f97c 1f9a5 1f9ab
1f9ae 1f9b0 1f9ba 1f9c0 1f9c3 1f9cb 1f9cd 1f9d0 1fa00 1fa54 1fa70 1fa74 1fa78 1fa7b 1fa80 1fa83
1fa90 1fa96"),
    ("12.1 v121", "32ff 3300"),
    ("13.0 v130", "8be 8c8 b55 b56 d04 d05 d81 d82 1abf 1ac1 2b97 2b98 2e50 2e53 31bb 31c0 4db6
4dc0 9ff0 9ffd a7c7 a7cb a7f5 a7f7 a82c a82d ab68 ab6c 1019c 1019d 10e80 10eaa 10eab 10eae 10eb0
10eb2 10fb0 10fcc 11147 11148 111ce 111d0 1145a 1145b 11460 11462 11900 11907 11909 1190a 1190c
11914 11915 11917 11918 11936 11937 11939 1193b 11947 11950 1195a 11fb0 11fb1 16fe4 16fe5 16ff0
16ff2 18af3 18cd6 18d00 18d09 1f10d 1f110 1f16d 1f170 1f1ad 1f1ae 1f6d6 1f6d8 1f6fb 1f6fd 1f8b0
1f8b2 1f90c 1f90d 1f972 1f973 1f977 1f979 1f9a3 1f9a5 1f9ab 1f9ae 1f9cb 1f9cc 1fa74 1fa75 1fa83
1fa87 1fa96 1faa9 1fab0 1fab7 1fac0 1fac3 1fad0 1fad7 1fb00 1fb93 1fb94 1fbcb 1fbf0 1fbfa 2a6d7
2a6de 30000 3134b"),
    ("14.0 v140", "61d 61e 870 88f 890 892 898 8a0 8b5 8b6 8c8 8d3 c3c c3d c5d c5e cdd cde 170d
170e 1715 1716 171f 1720 180f 1810 1ac1 1acf 1b4c 1b4d 1b7d 1b7f 1dfa 1dfb 20c0 20c1 2c2f 2c30
2c5f 2c60 2e53 2e5e 9ffd a000 a7c0 a7c2 a7d0 a7d2 a7d3 a7d4 a7d5 a7da a7f2 a7f5 fbc2 fbc3 fd40
fd50 fdcf fdd0 fdfe fe00 10570 1057b 1057c 1058b 1058c 10593 10594 10596 10597 105a2 105a3 105b2
105b3 105ba 105bb 105bd 10780 10786 10787 107b1 107b2 107bb 10f70 10f8a 11070 11076 110c2 110c3
116b9 116ba 11740 11747 11ab0 11ac0 12f90 12ff3 16a70 16abf 16ac0 16aca 1aff0 1aff4 1aff5 1affc
1affd 1afff 1b11f 1b123 1cf00 1cf2e 1cf30 1cf47 1cf50 1cfc4 1d1e9 1d1eb 1df00 1df1f 1e290 1e2af
1e7e0 1e7e7 1e7e8 1e7ec 1e7ed 1e7ef 1e7f0 1e7ff 1f6dd 1f6e0 1f7f0 1f7f1 1f979 1f97a 1f9cc 1f9cd
1fa7b 1fa7d 1faa9 1faad 1fab7 1fabb 1fac3 1fac6 1fad7 1fada 1fae0 1fae8 1faf0 1faf7 2a6de 2a6e0
2b735 2b739"),
    ("15.0 v150", "cf3 cf4 ece ecf 10efd 10f00 1123f 11242 11b00 11b0a 11f00 11f11 11f12 11f3b
11f3e 11f5a 1342f 13430 13439 13456 1b132 1b133 1b155 1b156 1d2c0 1d2d4 1df25 1df2b 1e030 1e06e
1e08f 1e090 1e4d0 1e4fa 1f6dc 1f6dd 1f774 1f777 1f77b 1f780 1f7d9 1f7da 1fa75 1fa78 1fa87 1fa89
1faad 1fab0 1fabb 1fabe 1fabf 1fac0 1face 1fad0 1fada 1fadc 1fae8 1fae9 1faf7 1faf9 2b739 2b73a
31350 323b0"),
    ("15.1 v151", "2ffc 3000 31ef 31f0 2ebf0 2ee5e"),
    ("16.0 v160", "897 898 1b4e 1b50 1b7f 1b80 1c89 1c8b 2427 242a 31e4 31e6 a7cb a7ce a7da a7dd
105c0 105f4 10d40 10d66 10d69 10d86 10d8e 10d90 10ec2 10ec5 10efc 10efd 11380 1138a 1138b 1138c
1138e 1138f 11390 113b6 113b7 113c1 113c2 113c3 113c5 113c6 113c7 113cb 113cc 113d6 113d7 113d9
113e1 113e3 116d0 116e4 11bc0 11be2 11bf0 11bfa 11f5a 11f5b 13460 143fb 16100 1613a 16d40 16d7a
18cff 18d00 1cc00 1ccfa 1cd00 1ceb4 1e5d0 1e5fb 1e5ff 1e600 1f8b2 1f8bc 1f8c0 1f8c2 1fa89 1fa8a
1fa8f 1fa90 1fabe 1fabf 1fac6 1fac7 1fadc 1fadd 1fadf 1fae0 1fae9 1faea 1fbcb 1fbf0")]

/-- The classes at the boundaries of characters as a reader sees them. -/
def graphemes : List (String × String) :=
  [("cr", "d e"),
    ("cn control", "0 a b d e 20 7f a0 ad ae 61c 61d 180e 180f 200b 200c 200e 2010 2028 202f 2060
2070 feff ff00 fff0 fffc 13430 13440 1bca0 1bca4 1d173 1d17b e0000 e0020 e0080 e0100 e01f0
e1000"),
    ("ex extend", "300 370 483 48a 591 5be 5bf 5c0 5c1 5c3 5c4 5c6 5c7 5c8 610 61b 64b 660 670
671 6d6 6dd 6df 6e5 6e7 6e9 6ea 6ee 711 712 730 74b 7a6 7b1 7eb 7f4 7fd 7fe 816 81a 81b 824 825
828 829 82e 859 85c 897 8a0 8ca 8e2 8e3 903 93a 93b 93c 93d 941 949 94d 94e 951 958 962 964 981
982 9bc 9bd 9be 9bf 9c1 9c5 9cd 9ce 9d7 9d8 9e2 9e4 9fe 9ff a01 a03 a3c a3d a41 a43 a47 a49 a4b
a4e a51 a52 a70 a72 a75 a76 a81 a83 abc abd ac1 ac6 ac7 ac9 acd ace ae2 ae4 afa b00 b01 b02 b3c
b3d b3e b40 b41 b45 b4d b4e b55 b58 b62 b64 b82 b83 bbe bbf bc0 bc1 bcd bce bd7 bd8 c00 c01 c04
c05 c3c c3d c3e c41 c46 c49 c4a c4e c55 c57 c62 c64 c81 c82 cbc cbd cbf cc1 cc2 cc3 cc6 cc9 cca
cce cd5 cd7 ce2 ce4 d00 d02 d3b d3d d3e d3f d41 d45 d4d d4e d57 d58 d62 d64 d81 d82 dca dcb dcf
dd0 dd2 dd5 dd6 dd7 ddf de0 e31 e32 e34 e3b e47 e4f eb1 eb2 eb4 ebd ec8 ecf f18 f1a f35 f36 f37
f38 f39 f3a f71 f7f f80 f85 f86 f88 f8d f98 f99 fbd fc6 fc7 102d 1031 1032 1038 1039 103b 103d
103f 1058 105a 105e 1061 1071 1075 1082 1083 1085 1087 108d 108e 109d 109e 135d 1360 1712 1716
1732 1735 1752 1754 1772 1774 17b4 17b6 17b7 17be 17c6 17c7 17c9 17d4 17dd 17de 180b 180e 180f
1810 1885 1887 18a9 18aa 1920 1923 1927 1929 1932 1933 1939 193c 1a17 1a19 1a1b 1a1c 1a56 1a57
1a58 1a5f 1a60 1a61 1a62 1a63 1a65 1a6d 1a73 1a7d 1a7f 1a80 1ab0 1acf 1b00 1b04 1b34 1b3e 1b42
1b45 1b6b 1b74 1b80 1b82 1ba2 1ba6 1ba8 1bae 1be6 1be7 1be8 1bea 1bed 1bee 1bef 1bf4 1c2c 1c34
1c36 1c38 1cd0 1cd3 1cd4 1ce1 1ce2 1ce9 1ced 1cee 1cf4 1cf5 1cf8 1cfa 1dc0 1e00 200c 200d 20d0
20f1 2cef 2cf2 2d7f 2d80 2de0 2e00 302a 3030 3099 309b a66f a673 a674 a67e a69e a6a0 a6f0 a6f2
a802 a803 a806 a807 a80b a80c a825 a827 a82c a82d a8c4 a8c6 a8e0 a8f2 a8ff a900 a926 a92e a947
a952 a953 a954 a980 a983 a9b3 a9b4 a9b6 a9ba a9bc a9be a9c0 a9c1 a9e5 a9e6 aa29 aa2f aa31 aa33
aa35 aa37 aa43 aa44 aa4c aa4d aa7c aa7d aab0 aab1 aab2 aab5 aab7 aab9 aabe aac0 aac1 aac2 aaec
aaee aaf6 aaf7 abe5 abe6 abe8 abe9 abed abee fb1e fb1f fe00 fe10 fe20 fe30 ff9e ffa0 101fd 101fe
102e0 102e1 10376 1037b 10a01 10a04 10a05 10a07 10a0c 10a10 10a38 10a3b 10a3f 10a40 10ae5 10ae7
10d24 10d28 10d69 10d6e 10eab 10ead 10efc 10f00 10f46 10f51 10f82 10f86 11001 11002 11038 11047
11070 11071 11073 11075 1107f 11082 110b3 110b7 110b9 110bb 110c2 110c3 11100 11103 11127 1112c
1112d 11135 11173 11174 11180 11182 111b6 111bf 111c0 111c1 111c9 111cd 111cf 111d0 1122f 11232
11234 11238 1123e 1123f 11241 11242 112df 112e0 112e3 112eb 11300 11302 1133b 1133d 1133e 1133f
11340 11341 1134d 1134e 11357 11358 11366 1136d 11370 11375 113b8 113b9 113bb 113c1 113c2 113c3
113c5 113c6 113c7 113ca 113ce 113d1 113d2 113d3 113e1 113e3 11438 11440 11442 11445 11446 11447
1145e 1145f 114b0 114b1 114b3 114b9 114ba 114bb 114bd 114be 114bf 114c1 114c2 114c4 115af 115b0
115b2 115b6 115bc 115be 115bf 115c1 115dc 115de 11633 1163b 1163d 1163e 1163f 11641 116ab 116ac
116ad 116ae 116b0 116b8 1171d 1171e 1171f 11720 11722 11726 11727 1172c 1182f 11838 11839 1183b
11930 11931 1193b 1193f 11943 11944 119d4 119d8 119da 119dc 119e0 119e1 11a01 11a0b 11a33 11a39
11a3b 11a3f 11a47 11a48 11a51 11a57 11a59 11a5c 11a8a 11a97 11a98 11a9a 11c30 11c37 11c38 11c3e
11c3f 11c40 11c92 11ca8 11caa 11cb1 11cb2 11cb4 11cb5 11cb7 11d31 11d37 11d3a 11d3b 11d3c 11d3e
11d3f 11d46 11d47 11d48 11d90 11d92 11d95 11d96 11d97 11d98 11ef3 11ef5 11f00 11f02 11f36 11f3b
11f40 11f43 11f5a 11f5b 13440 13441 13447 13456 1611e 1612a 1612d 16130 16af0 16af5 16b30 16b37
16f4f 16f50 16f8f 16f93 16fe4 16fe5 16ff0 16ff2 1bc9d 1bc9f 1cf00 1cf2e 1cf30 1cf47 1d165 1d16a
1d16d 1d173 1d17b 1d183 1d185 1d18c 1d1aa 1d1ae 1d242 1d245 1da00 1da37 1da3b 1da6d 1da75 1da76
1da84 1da85 1da9b 1daa0 1daa1 1dab0 1e000 1e007 1e008 1e019 1e01b 1e022 1e023 1e025 1e026 1e02b
1e08f 1e090 1e130 1e137 1e2ae 1e2af 1e2ec 1e2f0 1e4ec 1e4f0 1e5ee 1e5f0 1e8d0 1e8d7 1e944 1e94b
1f3fb 1f400 e0020 e0080 e0100 e01f0"),
    ("l", "1100 1160 a960 a97d"),
    ("lf", "a b"),
    ("lv", "ac00 ac01 ac1c ac1d ac38 ac39 ac54 ac55 ac70 ac71 ac8c ac8d aca8 aca9 acc4 acc5 ace0
ace1 acfc acfd ad18 ad19 ad34 ad35 ad50 ad51 ad6c ad6d ad88 ad89 ada4 ada5 adc0 adc1 addc addd
adf8 adf9 ae14 ae15 ae30 ae31 ae4c ae4d ae68 ae69 ae84 ae85 aea0 aea1 aebc aebd aed8 aed9 aef4
aef5 af10 af11 af2c af2d af48 af49 af64 af65 af80 af81 af9c af9d afb8 afb9 afd4 afd5 aff0 aff1
b00c b00d b028 b029 b044 b045 b060 b061 b07c b07d b098 b099 b0b4 b0b5 b0d0 b0d1 b0ec b0ed b108
b109 b124 b125 b140 b141 b15c b15d b178 b179 b194 b195 b1b0 b1b1 b1cc b1cd b1e8 b1e9 b204 b205
b220 b221 b23c b23d b258 b259 b274 b275 b290 b291 b2ac b2ad b2c8 b2c9 b2e4 b2e5 b300 b301 b31c
b31d b338 b339 b354 b355 b370 b371 b38c b38d b3a8 b3a9 b3c4 b3c5 b3e0 b3e1 b3fc b3fd b418 b419
b434 b435 b450 b451 b46c b46d b488 b489 b4a4 b4a5 b4c0 b4c1 b4dc b4dd b4f8 b4f9 b514 b515 b530
b531 b54c b54d b568 b569 b584 b585 b5a0 b5a1 b5bc b5bd b5d8 b5d9 b5f4 b5f5 b610 b611 b62c b62d
b648 b649 b664 b665 b680 b681 b69c b69d b6b8 b6b9 b6d4 b6d5 b6f0 b6f1 b70c b70d b728 b729 b744
b745 b760 b761 b77c b77d b798 b799 b7b4 b7b5 b7d0 b7d1 b7ec b7ed b808 b809 b824 b825 b840 b841
b85c b85d b878 b879 b894 b895 b8b0 b8b1 b8cc b8cd b8e8 b8e9 b904 b905 b920 b921 b93c b93d b958
b959 b974 b975 b990 b991 b9ac b9ad b9c8 b9c9 b9e4 b9e5 ba00 ba01 ba1c ba1d ba38 ba39 ba54 ba55
ba70 ba71 ba8c ba8d baa8 baa9 bac4 bac5 bae0 bae1 bafc bafd bb18 bb19 bb34 bb35 bb50 bb51 bb6c
bb6d bb88 bb89 bba4 bba5 bbc0 bbc1 bbdc bbdd bbf8 bbf9 bc14 bc15 bc30 bc31 bc4c bc4d bc68 bc69
bc84 bc85 bca0 bca1 bcbc bcbd bcd8 bcd9 bcf4 bcf5 bd10 bd11 bd2c bd2d bd48 bd49 bd64 bd65 bd80
bd81 bd9c bd9d bdb8 bdb9 bdd4 bdd5 bdf0 bdf1 be0c be0d be28 be29 be44 be45 be60 be61 be7c be7d
be98 be99 beb4 beb5 bed0 bed1 beec beed bf08 bf09 bf24 bf25 bf40 bf41 bf5c bf5d bf78 bf79 bf94
bf95 bfb0 bfb1 bfcc bfcd bfe8 bfe9 c004 c005 c020 c021 c03c c03d c058 c059 c074 c075 c090 c091
c0ac c0ad c0c8 c0c9 c0e4 c0e5 c100 c101 c11c c11d c138 c139 c154 c155 c170 c171 c18c c18d c1a8
c1a9 c1c4 c1c5 c1e0 c1e1 c1fc c1fd c218 c219 c234 c235 c250 c251 c26c c26d c288 c289 c2a4 c2a5
c2c0 c2c1 c2dc c2dd c2f8 c2f9 c314 c315 c330 c331 c34c c34d c368 c369 c384 c385 c3a0 c3a1 c3bc
c3bd c3d8 c3d9 c3f4 c3f5 c410 c411 c42c c42d c448 c449 c464 c465 c480 c481 c49c c49d c4b8 c4b9
c4d4 c4d5 c4f0 c4f1 c50c c50d c528 c529 c544 c545 c560 c561 c57c c57d c598 c599 c5b4 c5b5 c5d0
c5d1 c5ec c5ed c608 c609 c624 c625 c640 c641 c65c c65d c678 c679 c694 c695 c6b0 c6b1 c6cc c6cd
c6e8 c6e9 c704 c705 c720 c721 c73c c73d c758 c759 c774 c775 c790 c791 c7ac c7ad c7c8 c7c9 c7e4
c7e5 c800 c801 c81c c81d c838 c839 c854 c855 c870 c871 c88c c88d c8a8 c8a9 c8c4 c8c5 c8e0 c8e1
c8fc c8fd c918 c919 c934 c935 c950 c951 c96c c96d c988 c989 c9a4 c9a5 c9c0 c9c1 c9dc c9dd c9f8
c9f9 ca14 ca15 ca30 ca31 ca4c ca4d ca68 ca69 ca84 ca85 caa0 caa1 cabc cabd cad8 cad9 caf4 caf5
cb10 cb11 cb2c cb2d cb48 cb49 cb64 cb65 cb80 cb81 cb9c cb9d cbb8 cbb9 cbd4 cbd5 cbf0 cbf1 cc0c
cc0d cc28 cc29 cc44 cc45 cc60 cc61 cc7c cc7d cc98 cc99 ccb4 ccb5 ccd0 ccd1 ccec cced cd08 cd09
cd24 cd25 cd40 cd41 cd5c cd5d cd78 cd79 cd94 cd95 cdb0 cdb1 cdcc cdcd cde8 cde9 ce04 ce05 ce20
ce21 ce3c ce3d ce58 ce59 ce74 ce75 ce90 ce91 ceac cead cec8 cec9 cee4 cee5 cf00 cf01 cf1c cf1d
cf38 cf39 cf54 cf55 cf70 cf71 cf8c cf8d cfa8 cfa9 cfc4 cfc5 cfe0 cfe1 cffc cffd d018 d019 d034
d035 d050 d051 d06c d06d d088 d089 d0a4 d0a5 d0c0 d0c1 d0dc d0dd d0f8 d0f9 d114 d115 d130 d131
d14c d14d d168 d169 d184 d185 d1a0 d1a1 d1bc d1bd d1d8 d1d9 d1f4 d1f5 d210 d211 d22c d22d d248
d249 d264 d265 d280 d281 d29c d29d d2b8 d2b9 d2d4 d2d5 d2f0 d2f1 d30c d30d d328 d329 d344 d345
d360 d361 d37c d37d d398 d399 d3b4 d3b5 d3d0 d3d1 d3ec d3ed d408 d409 d424 d425 d440 d441 d45c
d45d d478 d479 d494 d495 d4b0 d4b1 d4cc d4cd d4e8 d4e9 d504 d505 d520 d521 d53c d53d d558 d559
d574 d575 d590 d591 d5ac d5ad d5c8 d5c9 d5e4 d5e5 d600 d601 d61c d61d d638 d639 d654 d655 d670
d671 d68c d68d d6a8 d6a9 d6c4 d6c5 d6e0 d6e1 d6fc d6fd d718 d719 d734 d735 d750 d751 d76c d76d
d788 d789"),
    ("lvt", "ac01 ac1c ac1d ac38 ac39 ac54 ac55 ac70 ac71 ac8c ac8d aca8 aca9 acc4 acc5 ace0 ace1
acfc acfd ad18 ad19 ad34 ad35 ad50 ad51 ad6c ad6d ad88 ad89 ada4 ada5 adc0 adc1 addc addd adf8
adf9 ae14 ae15 ae30 ae31 ae4c ae4d ae68 ae69 ae84 ae85 aea0 aea1 aebc aebd aed8 aed9 aef4 aef5
af10 af11 af2c af2d af48 af49 af64 af65 af80 af81 af9c af9d afb8 afb9 afd4 afd5 aff0 aff1 b00c
b00d b028 b029 b044 b045 b060 b061 b07c b07d b098 b099 b0b4 b0b5 b0d0 b0d1 b0ec b0ed b108 b109
b124 b125 b140 b141 b15c b15d b178 b179 b194 b195 b1b0 b1b1 b1cc b1cd b1e8 b1e9 b204 b205 b220
b221 b23c b23d b258 b259 b274 b275 b290 b291 b2ac b2ad b2c8 b2c9 b2e4 b2e5 b300 b301 b31c b31d
b338 b339 b354 b355 b370 b371 b38c b38d b3a8 b3a9 b3c4 b3c5 b3e0 b3e1 b3fc b3fd b418 b419 b434
b435 b450 b451 b46c b46d b488 b489 b4a4 b4a5 b4c0 b4c1 b4dc b4dd b4f8 b4f9 b514 b515 b530 b531
b54c b54d b568 b569 b584 b585 b5a0 b5a1 b5bc b5bd b5d8 b5d9 b5f4 b5f5 b610 b611 b62c b62d b648
b649 b664 b665 b680 b681 b69c b69d b6b8 b6b9 b6d4 b6d5 b6f0 b6f1 b70c b70d b728 b729 b744 b745
b760 b761 b77c b77d b798 b799 b7b4 b7b5 b7d0 b7d1 b7ec b7ed b808 b809 b824 b825 b840 b841 b85c
b85d b878 b879 b894 b895 b8b0 b8b1 b8cc b8cd b8e8 b8e9 b904 b905 b920 b921 b93c b93d b958 b959
b974 b975 b990 b991 b9ac b9ad b9c8 b9c9 b9e4 b9e5 ba00 ba01 ba1c ba1d ba38 ba39 ba54 ba55 ba70
ba71 ba8c ba8d baa8 baa9 bac4 bac5 bae0 bae1 bafc bafd bb18 bb19 bb34 bb35 bb50 bb51 bb6c bb6d
bb88 bb89 bba4 bba5 bbc0 bbc1 bbdc bbdd bbf8 bbf9 bc14 bc15 bc30 bc31 bc4c bc4d bc68 bc69 bc84
bc85 bca0 bca1 bcbc bcbd bcd8 bcd9 bcf4 bcf5 bd10 bd11 bd2c bd2d bd48 bd49 bd64 bd65 bd80 bd81
bd9c bd9d bdb8 bdb9 bdd4 bdd5 bdf0 bdf1 be0c be0d be28 be29 be44 be45 be60 be61 be7c be7d be98
be99 beb4 beb5 bed0 bed1 beec beed bf08 bf09 bf24 bf25 bf40 bf41 bf5c bf5d bf78 bf79 bf94 bf95
bfb0 bfb1 bfcc bfcd bfe8 bfe9 c004 c005 c020 c021 c03c c03d c058 c059 c074 c075 c090 c091 c0ac
c0ad c0c8 c0c9 c0e4 c0e5 c100 c101 c11c c11d c138 c139 c154 c155 c170 c171 c18c c18d c1a8 c1a9
c1c4 c1c5 c1e0 c1e1 c1fc c1fd c218 c219 c234 c235 c250 c251 c26c c26d c288 c289 c2a4 c2a5 c2c0
c2c1 c2dc c2dd c2f8 c2f9 c314 c315 c330 c331 c34c c34d c368 c369 c384 c385 c3a0 c3a1 c3bc c3bd
c3d8 c3d9 c3f4 c3f5 c410 c411 c42c c42d c448 c449 c464 c465 c480 c481 c49c c49d c4b8 c4b9 c4d4
c4d5 c4f0 c4f1 c50c c50d c528 c529 c544 c545 c560 c561 c57c c57d c598 c599 c5b4 c5b5 c5d0 c5d1
c5ec c5ed c608 c609 c624 c625 c640 c641 c65c c65d c678 c679 c694 c695 c6b0 c6b1 c6cc c6cd c6e8
c6e9 c704 c705 c720 c721 c73c c73d c758 c759 c774 c775 c790 c791 c7ac c7ad c7c8 c7c9 c7e4 c7e5
c800 c801 c81c c81d c838 c839 c854 c855 c870 c871 c88c c88d c8a8 c8a9 c8c4 c8c5 c8e0 c8e1 c8fc
c8fd c918 c919 c934 c935 c950 c951 c96c c96d c988 c989 c9a4 c9a5 c9c0 c9c1 c9dc c9dd c9f8 c9f9
ca14 ca15 ca30 ca31 ca4c ca4d ca68 ca69 ca84 ca85 caa0 caa1 cabc cabd cad8 cad9 caf4 caf5 cb10
cb11 cb2c cb2d cb48 cb49 cb64 cb65 cb80 cb81 cb9c cb9d cbb8 cbb9 cbd4 cbd5 cbf0 cbf1 cc0c cc0d
cc28 cc29 cc44 cc45 cc60 cc61 cc7c cc7d cc98 cc99 ccb4 ccb5 ccd0 ccd1 ccec cced cd08 cd09 cd24
cd25 cd40 cd41 cd5c cd5d cd78 cd79 cd94 cd95 cdb0 cdb1 cdcc cdcd cde8 cde9 ce04 ce05 ce20 ce21
ce3c ce3d ce58 ce59 ce74 ce75 ce90 ce91 ceac cead cec8 cec9 cee4 cee5 cf00 cf01 cf1c cf1d cf38
cf39 cf54 cf55 cf70 cf71 cf8c cf8d cfa8 cfa9 cfc4 cfc5 cfe0 cfe1 cffc cffd d018 d019 d034 d035
d050 d051 d06c d06d d088 d089 d0a4 d0a5 d0c0 d0c1 d0dc d0dd d0f8 d0f9 d114 d115 d130 d131 d14c
d14d d168 d169 d184 d185 d1a0 d1a1 d1bc d1bd d1d8 d1d9 d1f4 d1f5 d210 d211 d22c d22d d248 d249
d264 d265 d280 d281 d29c d29d d2b8 d2b9 d2d4 d2d5 d2f0 d2f1 d30c d30d d328 d329 d344 d345 d360
d361 d37c d37d d398 d399 d3b4 d3b5 d3d0 d3d1 d3ec d3ed d408 d409 d424 d425 d440 d441 d45c d45d
d478 d479 d494 d495 d4b0 d4b1 d4cc d4cd d4e8 d4e9 d504 d505 d520 d521 d53c d53d d558 d559 d574
d575 d590 d591 d5ac d5ad d5c8 d5c9 d5e4 d5e5 d600 d601 d61c d61d d638 d639 d654 d655 d670 d671
d68c d68d d6a8 d6a9 d6c4 d6c5 d6e0 d6e1 d6fc d6fd d718 d719 d734 d735 d750 d751 d76c d76d d788
d789 d7a4"),
    ("pp prepend", "600 606 6dd 6de 70f 710 890 892 8e2 8e3 d4e d4f 110bd 110be 110cd 110ce 111c2
111c4 113d1 113d2 1193f 11940 11941 11942 11a3a 11a3b 11a84 11a8a 11d46 11d47 11f02 11f03"),
    ("ri regionalindicator", "1f1e6 1f200"),
    ("sm spacingmark", "903 904 93b 93c 93e 941 949 94d 94e 950 982 984 9bf 9c1 9c7 9c9 9cb 9cd
a03 a04 a3e a41 a83 a84 abe ac1 ac9 aca acb acd b02 b04 b40 b41 b47 b49 b4b b4d bbf bc0 bc1 bc3
bc6 bc9 bca bcd c01 c04 c41 c45 c82 c84 cbe cbf cc1 cc2 cc3 cc5 cf3 cf4 d02 d04 d3f d41 d46 d49
d4a d4d d82 d84 dd0 dd2 dd8 ddf df2 df4 e33 e34 eb3 eb4 f3e f40 f7f f80 1031 1032 103b 103d 1056
1058 1084 1085 17b6 17b7 17be 17c6 17c7 17c9 1923 1927 1929 192c 1930 1932 1933 1939 1a19 1a1b
1a55 1a56 1a57 1a58 1a6d 1a73 1b04 1b05 1b3e 1b42 1b82 1b83 1ba1 1ba2 1ba6 1ba8 1be7 1be8 1bea
1bed 1bee 1bef 1c24 1c2c 1c34 1c36 1ce1 1ce2 1cf7 1cf8 a823 a825 a827 a828 a880 a882 a8b4 a8c4
a952 a953 a983 a984 a9b4 a9b6 a9ba a9bc a9be a9c0 aa2f aa31 aa33 aa35 aa4d aa4e aaeb aaec aaee
aaf0 aaf5 aaf6 abe3 abe5 abe6 abe8 abe9 abeb abec abed 11000 11001 11002 11003 11082 11083 110b0
110b3 110b7 110b9 1112c 1112d 11145 11147 11182 11183 111b3 111b6 111bf 111c0 111ce 111cf 1122c
1122f 11232 11234 112e0 112e3 11302 11304 1133f 11340 11341 11345 11347 11349 1134b 1134d 11362
11364 113b9 113bb 113ca 113cb 113cc 113ce 11435 11438 11440 11442 11445 11446 114b1 114b3 114b9
114ba 114bb 114bd 114be 114bf 114c1 114c2 115b0 115b2 115b8 115bc 115be 115bf 11630 11633 1163b
1163d 1163e 1163f 116ac 116ad 116ae 116b0 1171e 1171f 11726 11727 1182c 1182f 11838 11839 11931
11936 11937 11939 11940 11941 11942 11943 119d1 119d4 119dc 119e0 119e4 119e5 11a39 11a3a 11a57
11a59 11a97 11a98 11c2f 11c30 11c3e 11c3f 11ca9 11caa 11cb1 11cb2 11cb4 11cb5 11d8a 11d8f 11d93
11d95 11d96 11d97 11ef5 11ef7 11f03 11f04 11f34 11f36 11f3e 11f40 1612a 1612d 16f51 16f88"),
    ("t", "11a8 1200 d7cb d7fc"),
    ("v", "1160 11a8 d7b0 d7c7 16d63 16d64 16d67 16d6b"),
    ("zwj", "200d 200e")]

/-- The classes at the boundaries of sentences. -/
def sentences : List (String × String) :=
  [("at aterm", "2e 2f 2024 2025 fe52 fe53 ff0e ff0f"),
    ("cr", "d e"),
    ("cl close", "22 23 27 2a 5b 5c 5d 5e 7b 7c 7d 7e ab ac bb bc f3a f3e 169b 169d 2018 2020
2039 203b 2045 2047 207d 207f 208d 208f 2308 230c 2329 232b 275b 2761 2768 2776 27c5 27c7 27e6
27f0 2983 2999 29d8 29dc 29fc 29fe 2e00 2e0e 2e1c 2e1e 2e20 2e2a 2e42 2e43 2e55 2e5d 3008 3012
3014 301c 301d 3020 fd3e fd40 fe17 fe19 fe35 fe45 fe47 fe49 fe59 fe5f ff08 ff0a ff3b ff3c ff3d
ff3e ff5b ff5c ff5d ff5e ff5f ff61 ff62 ff64 1f676 1f679"),
    ("ex extend", "300 370 483 48a 591 5be 5bf 5c0 5c1 5c3 5c4 5c6 5c7 5c8 610 61b 64b 660 670
671 6d6 6dd 6df 6e5 6e7 6e9 6ea 6ee 711 712 730 74b 7a6 7b1 7eb 7f4 7fd 7fe 816 81a 81b 824 825
828 829 82e 859 85c 897 8a0 8ca 8e2 8e3 904 93a 93d 93e 950 951 958 962 964 981 984 9bc 9bd 9be
9c5 9c7 9c9 9cb 9ce 9d7 9d8 9e2 9e4 9fe 9ff a01 a04 a3c a3d a3e a43 a47 a49 a4b a4e a51 a52 a70
a72 a75 a76 a81 a84 abc abd abe ac6 ac7 aca acb ace ae2 ae4 afa b00 b01 b04 b3c b3d b3e b45 b47
b49 b4b b4e b55 b58 b62 b64 b82 b83 bbe bc3 bc6 bc9 bca bce bd7 bd8 c00 c05 c3c c3d c3e c45 c46
c49 c4a c4e c55 c57 c62 c64 c81 c84 cbc cbd cbe cc5 cc6 cc9 cca cce cd5 cd7 ce2 ce4 cf3 cf4 d00
d04 d3b d3d d3e d45 d46 d49 d4a d4e d57 d58 d62 d64 d81 d84 dca dcb dcf dd5 dd6 dd7 dd8 de0 df2
df4 e31 e32 e34 e3b e47 e4f eb1 eb2 eb4 ebd ec8 ecf f18 f1a f35 f36 f37 f38 f39 f3a f3e f40 f71
f85 f86 f88 f8d f98 f99 fbd fc6 fc7 102b 103f 1056 105a 105e 1061 1062 1065 1067 106e 1071 1075
1082 108e 108f 1090 109a 109e 135d 1360 1712 1716 1732 1735 1752 1754 1772 1774 17b4 17d4 17dd
17de 180b 180e 180f 1810 1885 1887 18a9 18aa 1920 192c 1930 193c 1a17 1a1c 1a55 1a5f 1a60 1a7d
1a7f 1a80 1ab0 1acf 1b00 1b05 1b34 1b45 1b6b 1b74 1b80 1b83 1ba1 1bae 1be6 1bf4 1c24 1c38 1cd0
1cd3 1cd4 1ce9 1ced 1cee 1cf4 1cf5 1cf7 1cfa 1dc0 1e00 200c 200e 20d0 20f1 2cef 2cf2 2d7f 2d80
2de0 2e00 302a 3030 3099 309b a66f a673 a674 a67e a69e a6a0 a6f0 a6f2 a802 a803 a806 a807 a80b
a80c a823 a828 a82c a82d a880 a882 a8b4 a8c6 a8e0 a8f2 a8ff a900 a926 a92e a947 a954 a980 a984
a9b3 a9c1 a9e5 a9e6 aa29 aa37 aa43 aa44 aa4c aa4e aa7b aa7e aab0 aab1 aab2 aab5 aab7 aab9 aabe
aac0 aac1 aac2 aaeb aaf0 aaf5 aaf7 abe3 abeb abec abee fb1e fb1f fe00 fe10 fe20 fe30 ff9e ffa0
101fd 101fe 102e0 102e1 10376 1037b 10a01 10a04 10a05 10a07 10a0c 10a10 10a38 10a3b 10a3f 10a40
10ae5 10ae7 10d24 10d28 10d69 10d6e 10eab 10ead 10efc 10f00 10f46 10f51 10f82 10f86 11000 11003
11038 11047 11070 11071 11073 11075 1107f 11083 110b0 110bb 110c2 110c3 11100 11103 11127 11135
11145 11147 11173 11174 11180 11183 111b3 111c1 111c9 111cd 111ce 111d0 1122c 11238 1123e 1123f
11241 11242 112df 112eb 11300 11304 1133b 1133d 1133e 11345 11347 11349 1134b 1134e 11357 11358
11362 11364 11366 1136d 11370 11375 113b8 113c1 113c2 113c3 113c5 113c6 113c7 113cb 113cc 113d1
113d2 113d3 113e1 113e3 11435 11447 1145e 1145f 114b0 114c4 115af 115b6 115b8 115c1 115dc 115de
11630 11641 116ab 116b8 1171d 1172c 1182c 1183b 11930 11936 11937 11939 1193b 1193f 11940 11941
11942 11944 119d1 119d8 119da 119e1 119e4 119e5 11a01 11a0b 11a33 11a3a 11a3b 11a3f 11a47 11a48
11a51 11a5c 11a8a 11a9a 11c2f 11c37 11c38 11c40 11c92 11ca8 11ca9 11cb7 11d31 11d37 11d3a 11d3b
11d3c 11d3e 11d3f 11d46 11d47 11d48 11d8a 11d8f 11d90 11d92 11d93 11d98 11ef3 11ef7 11f00 11f02
11f03 11f04 11f34 11f3b 11f3e 11f43 11f5a 11f5b 13440 13441 13447 13456 1611e 16130 16af0 16af5
16b30 16b37 16f4f 16f50 16f51 16f88 16f8f 16f93 16fe4 16fe5 16ff0 16ff2 1bc9d 1bc9f 1cf00 1cf2e
1cf30 1cf47 1d165 1d16a 1d16d 1d173 1d17b 1d183 1d185 1d18c 1d1aa 1d1ae 1d242 1d245 1da00 1da37
1da3b 1da6d 1da75 1da76 1da84 1da85 1da9b 1daa0 1daa1 1dab0 1e000 1e007 1e008 1e019 1e01b 1e022
1e023 1e025 1e026 1e02b 1e08f 1e090 1e130 1e137 1e2ae 1e2af 1e2ec 1e2f0 1e4ec 1e4f0 1e5ee 1e5f0
1e8d0 1e8d7 1e944 1e94b e0020 e0080 e0100 e01f0"),
    ("fo format", "ad ae 61c 61d 70f 710 180e 180f 200b 200c 200e 2010 202a 202f 2060 2065 2066
2070 feff ff00 fff9 fffc 13430 13440 1bca0 1bca4 1d173 1d17b e0001 e0002"),
    ("lf", "a b"),
    ("lo lower", "61 7b aa ab b5 b6 ba bb df f7 f8 100 101 102 103 104 105 106 107 108 109 10a
10b 10c 10d 10e 10f 110 111 112 113 114 115 116 117 118 119 11a 11b 11c 11d 11e 11f 120 121 122
123 124 125 126 127 128 129 12a 12b 12c 12d 12e 12f 130 131 132 133 134 135 136 137 139 13a 13b
13c 13d 13e 13f 140 141 142 143 144 145 146 147 148 14a 14b 14c 14d 14e 14f 150 151 152 153 154
155 156 157 158 159 15a 15b 15c 15d 15e 15f 160 161 162 163 164 165 166 167 168 169 16a 16b 16c
16d 16e 16f 170 171 172 173 174 175 176 177 178 17a 17b 17c 17d 17e 181 183 184 185 186 188 189
18c 18e 192 193 195 196 199 19c 19e 19f 1a1 1a2 1a3 1a4 1a5 1a6 1a8 1a9 1aa 1ac 1ad 1ae 1b0 1b1
1b4 1b5 1b6 1b7 1b9 1bb 1bd 1c0 1c6 1c7 1c9 1ca 1cc 1cd 1ce 1cf 1d0 1d1 1d2 1d3 1d4 1d5 1d6 1d7
1d8 1d9 1da 1db 1dc 1de 1df 1e0 1e1 1e2 1e3 1e4 1e5 1e6 1e7 1e8 1e9 1ea 1eb 1ec 1ed 1ee 1ef 1f1
1f3 1f4 1f5 1f6 1f9 1fa 1fb 1fc 1fd 1fe 1ff 200 201 202 203 204 205 206 207 208 209 20a 20b 20c
20d 20e 20f 210 211 212 213 214 215 216 217 218 219 21a 21b 21c 21d 21e 21f 220 221 222 223 224
225 226 227 228 229 22a 22b 22c 22d 22e 22f 230 231 232 233 23a 23c 23d 23f 241 242 243 247 248
249 24a 24b 24c 24d 24e 24f 294 295 2b9 2c0 2c2 2e0 2e5 371 372 373 374 377 378 37a 37e 390 391
3ac 3cf 3d0 3d2 3d5 3d8 3d9 3da 3db 3dc 3dd 3de 3df 3e0 3e1 3e2 3e3 3e4 3e5 3e6 3e7 3e8 3e9 3ea
3eb 3ec 3ed 3ee 3ef 3f4 3f5 3f6 3f8 3f9 3fb 3fd 430 460 461 462 463 464 465 466 467 468 469 46a
46b 46c 46d 46e 46f 470 471 472 473 474 475 476 477 478 479 47a 47b 47c 47d 47e 47f 480 481 482
48b 48c 48d 48e 48f 490 491 492 493 494 495 496 497 498 499 49a 49b 49c 49d 49e 49f 4a0 4a1 4a2
4a3 4a4 4a5 4a6 4a7 4a8 4a9 4aa 4ab 4ac 4ad 4ae 4af 4b0 4b1 4b2 4b3 4b4 4b5 4b6 4b7 4b8 4b9 4ba
4bb 4bc 4bd 4be 4bf 4c0 4c2 4c3 4c4 4c5 4c6 4c7 4c8 4c9 4ca 4cb 4cc 4cd 4ce 4d0 4d1 4d2 4d3 4d4
4d5 4d6 4d7 4d8 4d9 4da 4db 4dc 4dd 4de 4df 4e0 4e1 4e2 4e3 4e4 4e5 4e6 4e7 4e8 4e9 4ea 4eb 4ec
4ed 4ee 4ef 4f0 4f1 4f2 4f3 4f4 4f5 4f6 4f7 4f8 4f9 4fa 4fb 4fc 4fd 4fe 4ff 500 501 502 503 504
505 506 507 508 509 50a 50b 50c 50d 50e 50f 510 511 512 513 514 515 516 517 518 519 51a 51b 51c
51d 51e 51f 520 521 522 523 524 525 526 527 528 529 52a 52b 52c 52d 52e 52f 530 560 589 10fc 10fd
13f8 13fe 1c80 1c89 1c8a 1c8b 1d00 1dc0 1e01 1e02 1e03 1e04 1e05 1e06 1e07 1e08 1e09 1e0a 1e0b
1e0c 1e0d 1e0e 1e0f 1e10 1e11 1e12 1e13 1e14 1e15 1e16 1e17 1e18 1e19 1e1a 1e1b 1e1c 1e1d 1e1e
1e1f 1e20 1e21 1e22 1e23 1e24 1e25 1e26 1e27 1e28 1e29 1e2a 1e2b 1e2c 1e2d 1e2e 1e2f 1e30 1e31
1e32 1e33 1e34 1e35 1e36 1e37 1e38 1e39 1e3a 1e3b 1e3c 1e3d 1e3e 1e3f 1e40 1e41 1e42 1e43 1e44
1e45 1e46 1e47 1e48 1e49 1e4a 1e4b 1e4c 1e4d 1e4e 1e4f 1e50 1e51 1e52 1e53 1e54 1e55 1e56 1e57
1e58 1e59 1e5a 1e5b 1e5c 1e5d 1e5e 1e5f 1e60 1e61 1e62 1e63 1e64 1e65 1e66 1e67 1e68 1e69 1e6a
1e6b 1e6c 1e6d 1e6e 1e6f 1e70 1e71 1e72 1e73 1e74 1e75 1e76 1e77 1e78 1e79 1e7a 1e7b 1e7c 1e7d
1e7e 1e7f 1e80 1e81 1e82 1e83 1e84 1e85 1e86 1e87 1e88 1e89 1e8a 1e8b 1e8c 1e8d 1e8e 1e8f 1e90
1e91 1e92 1e93 1e94 1e95 1e9e 1e9f 1ea0 1ea1 1ea2 1ea3 1ea4 1ea5 1ea6 1ea7 1ea8 1ea9 1eaa 1eab
1eac 1ead 1eae 1eaf 1eb0 1eb1 1eb2 1eb3 1eb4 1eb5 1eb6 1eb7 1eb8 1eb9 1eba 1ebb 1ebc 1ebd 1ebe
1ebf 1ec0 1ec1 1ec2 1ec3 1ec4 1ec5 1ec6 1ec7 1ec8 1ec9 1eca 1ecb 1ecc 1ecd 1ece 1ecf 1ed0 1ed1
1ed2 1ed3 1ed4 1ed5 1ed6 1ed7 1ed8 1ed9 1eda 1edb 1edc 1edd 1ede 1edf 1ee0 1ee1 1ee2 1ee3 1ee4
1ee5 1ee6 1ee7 1ee8 1ee9 1eea 1eeb 1eec 1eed 1eee 1eef 1ef0 1ef1 1ef2 1ef3 1ef4 1ef5 1ef6 1ef7
1ef8 1ef9 1efa 1efb 1efc 1efd 1efe 1eff 1f08 1f10 1f16 1f20 1f28 1f30 1f38 1f40 1f46 1f50 1f58
1f60 1f68 1f70 1f7e 1f80 1f88 1f90 1f98 1fa0 1fa8 1fb0 1fb5 1fb6 1fb8 1fbe 1fbf 1fc2 1fc5 1fc6
1fc8 1fd0 1fd4 1fd6 1fd8 1fe0 1fe8 1ff2 1ff5 1ff6 1ff8 2071 2072 207f 2080 2090 209d 210a 210b
210e 2110 2113 2114 212f 2130 2134 2135 2139 213a 213c 213e 2146 214a 214e 214f 2170 2180 2184
2185 24d0 24ea 2c30 2c60 2c61 2c62 2c65 2c67 2c68 2c69 2c6a 2c6b 2c6c 2c6d 2c71 2c72 2c73 2c75
2c76 2c7e 2c81 2c82 2c83 2c84 2c85 2c86 2c87 2c88 2c89 2c8a 2c8b 2c8c 2c8d 2c8e 2c8f 2c90 2c91
2c92 2c93 2c94 2c95 2c96 2c97 2c98 2c99 2c9a 2c9b 2c9c 2c9d 2c9e 2c9f 2ca0 2ca1 2ca2 2ca3 2ca4
2ca5 2ca6 2ca7 2ca8 2ca9 2caa 2cab 2cac 2cad 2cae 2caf 2cb0 2cb1 2cb2 2cb3 2cb4 2cb5 2cb6 2cb7
2cb8 2cb9 2cba 2cbb 2cbc 2cbd 2cbe 2cbf 2cc0 2cc1 2cc2 2cc3 2cc4 2cc5 2cc6 2cc7 2cc8 2cc9 2cca
2ccb 2ccc 2ccd 2cce 2ccf 2cd0 2cd1 2cd2 2cd3 2cd4 2cd5 2cd6 2cd7 2cd8 2cd9 2cda 2cdb 2cdc 2cdd
2cde 2cdf 2ce0 2ce1 2ce2 2ce3 2ce5 2cec 2ced 2cee 2cef 2cf3 2cf4 2d00 2d26 2d27 2d28 2d2d 2d2e
a641 a642 a643 a644 a645 a646 a647 a648 a649 a64a a64b a64c a64d a64e a64f a650 a651 a652 a653
a654 a655 a656 a657 a658 a659 a65a a65b a65c a65d a65e a65f a660 a661 a662 a663 a664 a665 a666
a667 a668 a669 a66a a66b a66c a66d a66e a681 a682 a683 a684 a685 a686 a687 a688 a689 a68a a68b
a68c a68d a68e a68f a690 a691 a692 a693 a694 a695 a696 a697 a698 a699 a69a a69b a69e a723 a724
a725 a726 a727 a728 a729 a72a a72b a72c a72d a72e a72f a732 a733 a734 a735 a736 a737 a738 a739
a73a a73b a73c a73d a73e a73f a740 a741 a742 a743 a744 a745 a746 a747 a748 a749 a74a a74b a74c
a74d a74e a74f a750 a751 a752 a753 a754 a755 a756 a757 a758 a759 a75a a75b a75c a75d a75e a75f
a760 a761 a762 a763 a764 a765 a766 a767 a768 a769 a76a a76b a76c a76d a76e a76f a779 a77a a77b
a77c a77d a77f a780 a781 a782 a783 a784 a785 a786 a787 a788 a78c a78d a78e a78f a791 a792 a793
a796 a797 a798 a799 a79a a79b a79c a79d a79e a79f a7a0 a7a1 a7a2 a7a3 a7a4 a7a5 a7a6 a7a7 a7a8
a7a9 a7aa a7af a7b0 a7b5 a7b6 a7b7 a7b8 a7b9 a7ba a7bb a7bc a7bd a7be a7bf a7c0 a7c1 a7c2 a7c3
a7c4 a7c8 a7c9 a7ca a7cb a7cd a7ce a7d1 a7d2 a7d3 a7d4 a7d5 a7d6 a7d7 a7d8 a7d9 a7da a7db a7dc
a7f2 a7f5 a7f6 a7f7 a7f8 a7fb ab30 ab5b ab5c ab6a ab70 abc0 fb00 fb07 fb13 fb18 ff41 ff5b 10428
10450 104d8 104fc 10597 105a2 105a3 105b2 105b3 105ba 105bb 105bd 10780 10781 10783 10786 10787
107b1 107b2 107bb 10cc0 10cf3 10d70 10d86 118c0 118e0 16e60 16e80 1d41a 1d434 1d44e 1d455 1d456
1d468 1d482 1d49c 1d4b6 1d4ba 1d4bb 1d4bc 1d4bd 1d4c4 1d4c5 1d4d0 1d4ea 1d504 1d51e 1d538 1d552
1d56c 1d586 1d5a0 1d5ba 1d5d4 1d5ee 1d608 1d622 1d63c 1d656 1d670 1d68a 1d6a6 1d6c2 1d6db 1d6dc
1d6e2 1d6fc 1d715 1d716 1d71c 1d736 1d74f 1d750 1d756 1d770 1d789 1d78a 1d790 1d7aa 1d7c3 1d7c4
1d7ca 1d7cb 1d7cc 1df00 1df0a 1df0b 1df1f 1df25 1df2b 1e030 1e06e 1e922 1e944"),
    ("nu numeric", "30 3a 600 606 660 66a 66b 66d 6dd 6de 6f0 6fa 7c0 7ca 890 892 8e2 8e3 966 970
9e6 9f0 a66 a70 ae6 af0 b66 b70 be6 bf0 c66 c70 ce6 cf0 d66 d70 de6 df0 e50 e5a ed0 eda f20 f2a
1040 104a 1090 109a 17e0 17ea 1810 181a 1946 1950 19d0 19db 1a80 1a8a 1a90 1a9a 1b50 1b5a 1bb0
1bba 1c40 1c4a 1c50 1c5a a620 a62a a8d0 a8da a900 a90a a9d0 a9da a9f0 a9fa aa50 aa5a abf0 abfa
ff10 ff1a 104a0 104aa 10d30 10d3a 10d40 10d4a 11066 11070 110bd 110be 110cd 110ce 110f0 110fa
11136 11140 111d0 111da 112f0 112fa 11450 1145a 114d0 114da 11650 1165a 116c0 116ca 116d0 116e4
11730 1173a 118e0 118ea 11950 1195a 11bf0 11bfa 11c50 11c5a 11d50 11d5a 11da0 11daa 11f50 11f5a
16130 1613a 16a60 16a6a 16ac0 16aca 16b50 16b5a 16d70 16d7a 1ccf0 1ccfa 1d7ce 1d800 1e140 1e14a
1e2f0 1e2fa 1e4f0 1e4fa 1e5f1 1e5fb 1e950 1e95a 1fbf0 1fbfa"),
    ("le oletter", "1bb 1bc 1c0 1c4 294 295 2b9 2c0 2c6 2d2 2ec 2ed 2ee 2ef 374 375 559 55a 5d0
5eb 5ef 5f4 620 64b 66e 670 671 6d4 6d5 6d6 6e5 6e7 6ee 6f0 6fa 6fd 6ff 700 710 711 712 730 74d
7a6 7b1 7b2 7ca 7eb 7f4 7f6 7fa 7fb 800 816 81a 81b 824 825 828 829 840 859 860 86b 870 888 889
88f 8a0 8ca 904 93a 93d 93e 950 951 958 962 971 981 985 98d 98f 991 993 9a9 9aa 9b1 9b2 9b3 9b6
9ba 9bd 9be 9ce 9cf 9dc 9de 9df 9e2 9f0 9f2 9fc 9fd a05 a0b a0f a11 a13 a29 a2a a31 a32 a34 a35
a37 a38 a3a a59 a5d a5e a5f a72 a75 a85 a8e a8f a92 a93 aa9 aaa ab1 ab2 ab4 ab5 aba abd abe ad0
ad1 ae0 ae2 af9 afa b05 b0d b0f b11 b13 b29 b2a b31 b32 b34 b35 b3a b3d b3e b5c b5e b5f b62 b71
b72 b83 b84 b85 b8b b8e b91 b92 b96 b99 b9b b9c b9d b9e ba0 ba3 ba5 ba8 bab bae bba bd0 bd1 c05
c0d c0e c11 c12 c29 c2a c3a c3d c3e c58 c5b c5d c5e c60 c62 c80 c81 c85 c8d c8e c91 c92 ca9 caa
cb4 cb5 cba cbd cbe cdd cdf ce0 ce2 cf1 cf3 d04 d0d d0e d11 d12 d3b d3d d3e d4e d4f d54 d57 d5f
d62 d7a d80 d85 d97 d9a db2 db3 dbc dbd dbe dc0 dc7 e01 e31 e32 e34 e40 e47 e81 e83 e84 e85 e86
e8b e8c ea4 ea5 ea6 ea7 eb1 eb2 eb4 ebd ebe ec0 ec5 ec6 ec7 edc ee0 f00 f01 f40 f48 f49 f6d f88
f8d 1000 102b 103f 1040 1050 1056 105a 105e 1061 1062 1065 1067 106e 1071 1075 1082 108e 108f
10d0 10fb 10fd 1249 124a 124e 1250 1257 1258 1259 125a 125e 1260 1289 128a 128e 1290 12b1 12b2
12b6 12b8 12bf 12c0 12c1 12c2 12c6 12c8 12d7 12d8 1311 1312 1316 1318 135b 1380 1390 1401 166d
166f 1680 1681 169b 16a0 16eb 16ee 16f9 1700 1712 171f 1732 1740 1752 1760 176d 176e 1771 1780
17b4 17d7 17d8 17dc 17dd 1820 1879 1880 1885 1887 18a9 18aa 18ab 18b0 18f6 1900 191f 1950 196e
1970 1975 1980 19ac 19b0 19ca 1a00 1a17 1a20 1a55 1aa7 1aa8 1b05 1b34 1b45 1b4d 1b83 1ba1 1bae
1bb0 1bba 1be6 1c00 1c24 1c4d 1c50 1c5a 1c7e 1c90 1cbb 1cbd 1cc0 1ce9 1ced 1cee 1cf4 1cf5 1cf7
1cfa 1cfb 2135 2139 2180 2183 2185 2189 2d30 2d68 2d6f 2d70 2d80 2d97 2da0 2da7 2da8 2daf 2db0
2db7 2db8 2dbf 2dc0 2dc7 2dc8 2dcf 2dd0 2dd7 2dd8 2ddf 2e2f 2e30 3005 3008 3021 302a 3031 3036
3038 303d 3041 3097 309d 30a0 30a1 30fb 30fc 3100 3105 3130 3131 318f 31a0 31c0 31f0 3200 3400
4dc0 4e00 a48d a4d0 a4fe a500 a60d a610 a620 a62a a62c a66e a66f a67f a680 a6a0 a6f0 a717 a720
a788 a789 a78f a790 a7f7 a7f8 a7fb a802 a803 a806 a807 a80b a80c a823 a840 a874 a882 a8b4 a8f2
a8f8 a8fb a8fc a8fd a8ff a90a a926 a930 a947 a960 a97d a984 a9b3 a9cf a9d0 a9e0 a9e5 a9e6 a9f0
a9fa a9ff aa00 aa29 aa40 aa43 aa44 aa4c aa60 aa77 aa7a aa7b aa7e aab0 aab1 aab2 aab5 aab7 aab9
aabe aac0 aac1 aac2 aac3 aadb aade aae0 aaeb aaf2 aaf5 ab01 ab07 ab09 ab0f ab11 ab17 ab20 ab27
ab28 ab2f abc0 abe3 ac00 d7a4 d7b0 d7c7 d7cb d7fc f900 fa6e fa70 fada fb1d fb1e fb1f fb29 fb2a
fb37 fb38 fb3d fb3e fb3f fb40 fb42 fb43 fb45 fb46 fbb2 fbd3 fd3e fd50 fd90 fd92 fdc8 fdf0 fdfc
fe70 fe75 fe76 fefd ff66 ff9e ffa0 ffbf ffc2 ffc8 ffca ffd0 ffd2 ffd8 ffda ffdd 10000 1000c 1000d
10027 10028 1003b 1003c 1003e 1003f 1004e 10050 1005e 10080 100fb 10140 10175 10280 1029d 102a0
102d1 10300 10320 1032d 1034b 10350 10376 10380 1039e 103a0 103c4 103c8 103d0 103d1 103d6 10450
1049e 10500 10528 10530 10564 105c0 105f4 10600 10737 10740 10756 10760 10768 10781 10783 10800
10806 10808 10809 1080a 10836 10837 10839 1083c 1083d 1083f 10856 10860 10877 10880 1089f 108e0
108f3 108f4 108f6 10900 10916 10920 1093a 10980 109b8 109be 109c0 10a00 10a01 10a10 10a14 10a15
10a18 10a19 10a36 10a60 10a7d 10a80 10a9d 10ac0 10ac8 10ac9 10ae5 10b00 10b36 10b40 10b56 10b60
10b73 10b80 10b92 10c00 10c49 10d00 10d24 10d4a 10d50 10d6f 10d70 10e80 10eaa 10eb0 10eb2 10ec2
10ec5 10f00 10f1d 10f27 10f28 10f30 10f46 10f70 10f82 10fb0 10fc5 10fe0 10ff7 11003 11038 11071
11073 11075 11076 11083 110b0 110d0 110e9 11103 11127 11144 11145 11147 11148 11150 11173 11176
11177 11183 111b3 111c1 111c5 111da 111db 111dc 111dd 11200 11212 11213 1122c 1123f 11241 11280
11287 11288 11289 1128a 1128e 1128f 1129e 1129f 112a9 112b0 112df 11305 1130d 1130f 11311 11313
11329 1132a 11331 11332 11334 11335 1133a 1133d 1133e 11350 11351 1135d 11362 11380 1138a 1138b
1138c 1138e 1138f 11390 113b6 113b7 113b8 113d1 113d2 113d3 113d4 11400 11435 11447 1144b 1145f
11462 11480 114b0 114c4 114c6 114c7 114c8 11580 115af 115d8 115dc 11600 11630 11644 11645 11680
116ab 116b8 116b9 11700 1171b 11740 11747 11800 1182c 118ff 11907 11909 1190a 1190c 11914 11915
11917 11918 11930 1193f 11940 11941 11942 119a0 119a8 119aa 119d1 119e1 119e2 119e3 119e4 11a00
11a01 11a0b 11a33 11a3a 11a3b 11a50 11a51 11a5c 11a8a 11a9d 11a9e 11ab0 11af9 11bc0 11be1 11c00
11c09 11c0a 11c2f 11c40 11c41 11c72 11c90 11d00 11d07 11d08 11d0a 11d0b 11d31 11d46 11d47 11d60
11d66 11d67 11d69 11d6a 11d8a 11d98 11d99 11ee0 11ef3 11f02 11f03 11f04 11f11 11f12 11f34 11fb0
11fb1 12000 1239a 12400 1246f 12480 12544 12f90 12ff1 13000 13430 13441 13447 13460 143fb 14400
14647 16100 1611e 16800 16a39 16a40 16a5f 16a70 16abf 16ad0 16aee 16b00 16b30 16b40 16b44 16b63
16b78 16b7d 16b90 16d40 16d6d 16f00 16f4b 16f50 16f51 16f93 16fa0 16fe0 16fe2 16fe3 16fe4 17000
187f8 18800 18cd6 18cff 18d09 1aff0 1aff4 1aff5 1affc 1affd 1afff 1b000 1b123 1b132 1b133 1b150
1b153 1b155 1b156 1b164 1b168 1b170 1b2fc 1bc00 1bc6b 1bc70 1bc7d 1bc80 1bc89 1bc90 1bc9a 1df0a
1df0b 1e100 1e12d 1e137 1e13e 1e14e 1e14f 1e290 1e2ae 1e2c0 1e2ec 1e4d0 1e4ec 1e5d0 1e5ee 1e5f0
1e5f1 1e7e0 1e7e7 1e7e8 1e7ec 1e7ed 1e7ef 1e7f0 1e7ff 1e800 1e8c5 1e94b 1e94c 1ee00 1ee04 1ee05
1ee20 1ee21 1ee23 1ee24 1ee25 1ee27 1ee28 1ee29 1ee33 1ee34 1ee38 1ee39 1ee3a 1ee3b 1ee3c 1ee42
1ee43 1ee47 1ee48 1ee49 1ee4a 1ee4b 1ee4c 1ee4d 1ee50 1ee51 1ee53 1ee54 1ee55 1ee57 1ee58 1ee59
1ee5a 1ee5b 1ee5c 1ee5d 1ee5e 1ee5f 1ee60 1ee61 1ee63 1ee64 1ee65 1ee67 1ee6b 1ee6c 1ee73 1ee74
1ee78 1ee79 1ee7d 1ee7e 1ee7f 1ee80 1ee8a 1ee8b 1ee9c 1eea1 1eea4 1eea5 1eeaa 1eeab 1eebc 20000
2a6e0 2a700 2b73a 2b740 2b81e 2b820 2cea2 2ceb0 2ebe1 2ebf0 2ee5e 2f800 2fa1e 30000 3134b 31350
323b0"),
    ("sc scontinue", "2c 2e 3a 3c 37e 37f 55d 55e 60c 60e 7f8 7f9 1802 1803 1808 1809 2013 2015
3001 3002 fe10 fe12 fe13 fe15 fe31 fe33 fe50 fe52 fe54 fe56 fe58 fe59 fe63 fe64 ff0c ff0e ff1a
ff1c ff64 ff65"),
    ("st sterm", "21 22 3f 40 589 58a 61d 620 6d4 6d5 700 703 7f9 7fa 837 838 839 83a 83d 83f 964
966 104a 104c 1362 1363 1367 1369 166e 166f 1735 1737 17d4 17d6 1803 1804 1809 180a 1944 1946
1aa8 1aac 1b4e 1b50 1b5a 1b5c 1b5e 1b60 1b7d 1b80 1c3b 1c3d 1c7e 1c80 203c 203e 2047 204a 2cf9
2cfc 2e2e 2e2f 2e3c 2e3d 2e53 2e55 3002 3003 a4ff a500 a60e a610 a6f3 a6f4 a6f7 a6f8 a876 a878
a8ce a8d0 a92f a930 a9c8 a9ca aa5d aa60 aaf0 aaf2 abeb abec fe12 fe13 fe15 fe17 fe56 fe58 ff01
ff02 ff1f ff20 ff61 ff62 10a56 10a58 10f55 10f5a 10f86 10f8a 11047 11049 110be 110c2 11141 11144
111c5 111c7 111cd 111ce 111de 111e0 11238 1123a 1123b 1123d 112a9 112aa 113d4 113d6 1144b 1144d
115c2 115c4 115c9 115d8 11641 11643 1173c 1173f 11944 11945 11946 11947 11a42 11a44 11a9b 11a9d
11c41 11c43 11ef7 11ef9 11f43 11f45 16a6e 16a70 16af5 16af6 16b37 16b39 16b44 16b45 16d6e 16d70
16e98 16e99 1bc9f 1bca0 1da88 1da89"),
    ("se sep", "85 86 2028 202a"),
    ("sp", "9 a b d 20 21 a0 a1 1680 1681 2000 200b 202f 2030 205f 2060 3000 3001"),
    ("up upper", "41 5b c0 d7 d8 df 100 101 102 103 104 105 106 107 108 109 10a 10b 10c 10d 10e
10f 110 111 112 113 114 115 116 117 118 119 11a 11b 11c 11d 11e 11f 120 121 122 123 124 125 126
127 128 129 12a 12b 12c 12d 12e 12f 130 131 132 133 134 135 136 137 139 13a 13b 13c 13d 13e 13f
140 141 142 143 144 145 146 147 148 14a 14b 14c 14d 14e 14f 150 151 152 153 154 155 156 157 158
159 15a 15b 15c 15d 15e 15f 160 161 162 163 164 165 166 167 168 169 16a 16b 16c 16d 16e 16f 170
171 172 173 174 175 176 177 178 17a 17b 17c 17d 17e 181 183 184 185 186 188 189 18c 18e 192 193
195 196 199 19c 19e 19f 1a1 1a2 1a3 1a4 1a5 1a6 1a8 1a9 1aa 1ac 1ad 1ae 1b0 1b1 1b4 1b5 1b6 1b7
1b9 1bc 1bd 1c4 1c6 1c7 1c9 1ca 1cc 1cd 1ce 1cf 1d0 1d1 1d2 1d3 1d4 1d5 1d6 1d7 1d8 1d9 1da 1db
1dc 1de 1df 1e0 1e1 1e2 1e3 1e4 1e5 1e6 1e7 1e8 1e9 1ea 1eb 1ec 1ed 1ee 1ef 1f1 1f3 1f4 1f5 1f6
1f9 1fa 1fb 1fc 1fd 1fe 1ff 200 201 202 203 204 205 206 207 208 209 20a 20b 20c 20d 20e 20f 210
211 212 213 214 215 216 217 218 219 21a 21b 21c 21d 21e 21f 220 221 222 223 224 225 226 227 228
229 22a 22b 22c 22d 22e 22f 230 231 232 233 23a 23c 23d 23f 241 242 243 247 248 249 24a 24b 24c
24d 24e 24f 370 371 372 373 376 377 37f 380 386 387 388 38b 38c 38d 38e 390 391 3a2 3a3 3ac 3cf
3d0 3d2 3d5 3d8 3d9 3da 3db 3dc 3dd 3de 3df 3e0 3e1 3e2 3e3 3e4 3e5 3e6 3e7 3e8 3e9 3ea 3eb 3ec
3ed 3ee 3ef 3f4 3f5 3f7 3f8 3f9 3fb 3fd 430 460 461 462 463 464 465 466 467 468 469 46a 46b 46c
46d 46e 46f 470 471 472 473 474 475 476 477 478 479 47a 47b 47c 47d 47e 47f 480 481 48a 48b 48c
48d 48e 48f 490 491 492 493 494 495 496 497 498 499 49a 49b 49c 49d 49e 49f 4a0 4a1 4a2 4a3 4a4
4a5 4a6 4a7 4a8 4a9 4aa 4ab 4ac 4ad 4ae 4af 4b0 4b1 4b2 4b3 4b4 4b5 4b6 4b7 4b8 4b9 4ba 4bb 4bc
4bd 4be 4bf 4c0 4c2 4c3 4c4 4c5 4c6 4c7 4c8 4c9 4ca 4cb 4cc 4cd 4ce 4d0 4d1 4d2 4d3 4d4 4d5 4d6
4d7 4d8 4d9 4da 4db 4dc 4dd 4de 4df 4e0 4e1 4e2 4e3 4e4 4e5 4e6 4e7 4e8 4e9 4ea 4eb 4ec 4ed 4ee
4ef 4f0 4f1 4f2 4f3 4f4 4f5 4f6 4f7 4f8 4f9 4fa 4fb 4fc 4fd 4fe 4ff 500 501 502 503 504 505 506
507 508 509 50a 50b 50c 50d 50e 50f 510 511 512 513 514 515 516 517 518 519 51a 51b 51c 51d 51e
51f 520 521 522 523 524 525 526 527 528 529 52a 52b 52c 52d 52e 52f 531 557 10a0 10c6 10c7 10c8
10cd 10ce 13a0 13f6 1c89 1c8a 1e00 1e01 1e02 1e03 1e04 1e05 1e06 1e07 1e08 1e09 1e0a 1e0b 1e0c
1e0d 1e0e 1e0f 1e10 1e11 1e12 1e13 1e14 1e15 1e16 1e17 1e18 1e19 1e1a 1e1b 1e1c 1e1d 1e1e 1e1f
1e20 1e21 1e22 1e23 1e24 1e25 1e26 1e27 1e28 1e29 1e2a 1e2b 1e2c 1e2d 1e2e 1e2f 1e30 1e31 1e32
1e33 1e34 1e35 1e36 1e37 1e38 1e39 1e3a 1e3b 1e3c 1e3d 1e3e 1e3f 1e40 1e41 1e42 1e43 1e44 1e45
1e46 1e47 1e48 1e49 1e4a 1e4b 1e4c 1e4d 1e4e 1e4f 1e50 1e51 1e52 1e53 1e54 1e55 1e56 1e57 1e58
1e59 1e5a 1e5b 1e5c 1e5d 1e5e 1e5f 1e60 1e61 1e62 1e63 1e64 1e65 1e66 1e67 1e68 1e69 1e6a 1e6b
1e6c 1e6d 1e6e 1e6f 1e70 1e71 1e72 1e73 1e74 1e75 1e76 1e77 1e78 1e79 1e7a 1e7b 1e7c 1e7d 1e7e
1e7f 1e80 1e81 1e82 1e83 1e84 1e85 1e86 1e87 1e88 1e89 1e8a 1e8b 1e8c 1e8d 1e8e 1e8f 1e90 1e91
1e92 1e93 1e94 1e95 1e9e 1e9f 1ea0 1ea1 1ea2 1ea3 1ea4 1ea5 1ea6 1ea7 1ea8 1ea9 1eaa 1eab 1eac
1ead 1eae 1eaf 1eb0 1eb1 1eb2 1eb3 1eb4 1eb5 1eb6 1eb7 1eb8 1eb9 1eba 1ebb 1ebc 1ebd 1ebe 1ebf
1ec0 1ec1 1ec2 1ec3 1ec4 1ec5 1ec6 1ec7 1ec8 1ec9 1eca 1ecb 1ecc 1ecd 1ece 1ecf 1ed0 1ed1 1ed2
1ed3 1ed4 1ed5 1ed6 1ed7 1ed8 1ed9 1eda 1edb 1edc 1edd 1ede 1edf 1ee0 1ee1 1ee2 1ee3 1ee4 1ee5
1ee6 1ee7 1ee8 1ee9 1eea 1eeb 1eec 1eed 1eee 1eef 1ef0 1ef1 1ef2 1ef3 1ef4 1ef5 1ef6 1ef7 1ef8
1ef9 1efa 1efb 1efc 1efd 1efe 1eff 1f08 1f10 1f18 1f1e 1f28 1f30 1f38 1f40 1f48 1f4e 1f59 1f5a
1f5b 1f5c 1f5d 1f5e 1f5f 1f60 1f68 1f70 1f88 1f90 1f98 1fa0 1fa8 1fb0 1fb8 1fbd 1fc8 1fcd 1fd8
1fdc 1fe8 1fed 1ff8 1ffd 2102 2103 2107 2108 210b 210e 2110 2113 2115 2116 2119 211e 2124 2125
2126 2127 2128 2129 212a 212e 2130 2134 213e 2140 2145 2146 2160 2170 2183 2184 24b6 24d0 2c00
2c30 2c60 2c61 2c62 2c65 2c67 2c68 2c69 2c6a 2c6b 2c6c 2c6d 2c71 2c72 2c73 2c75 2c76 2c7e 2c81
2c82 2c83 2c84 2c85 2c86 2c87 2c88 2c89 2c8a 2c8b 2c8c 2c8d 2c8e 2c8f 2c90 2c91 2c92 2c93 2c94
2c95 2c96 2c97 2c98 2c99 2c9a 2c9b 2c9c 2c9d 2c9e 2c9f 2ca0 2ca1 2ca2 2ca3 2ca4 2ca5 2ca6 2ca7
2ca8 2ca9 2caa 2cab 2cac 2cad 2cae 2caf 2cb0 2cb1 2cb2 2cb3 2cb4 2cb5 2cb6 2cb7 2cb8 2cb9 2cba
2cbb 2cbc 2cbd 2cbe 2cbf 2cc0 2cc1 2cc2 2cc3 2cc4 2cc5 2cc6 2cc7 2cc8 2cc9 2cca 2ccb 2ccc 2ccd
2cce 2ccf 2cd0 2cd1 2cd2 2cd3 2cd4 2cd5 2cd6 2cd7 2cd8 2cd9 2cda 2cdb 2cdc 2cdd 2cde 2cdf 2ce0
2ce1 2ce2 2ce3 2ceb 2cec 2ced 2cee 2cf2 2cf3 a640 a641 a642 a643 a644 a645 a646 a647 a648 a649
a64a a64b a64c a64d a64e a64f a650 a651 a652 a653 a654 a655 a656 a657 a658 a659 a65a a65b a65c
a65d a65e a65f a660 a661 a662 a663 a664 a665 a666 a667 a668 a669 a66a a66b a66c a66d a680 a681
a682 a683 a684 a685 a686 a687 a688 a689 a68a a68b a68c a68d a68e a68f a690 a691 a692 a693 a694
a695 a696 a697 a698 a699 a69a a69b a722 a723 a724 a725 a726 a727 a728 a729 a72a a72b a72c a72d
a72e a72f a732 a733 a734 a735 a736 a737 a738 a739 a73a a73b a73c a73d a73e a73f a740 a741 a742
a743 a744 a745 a746 a747 a748 a749 a74a a74b a74c a74d a74e a74f a750 a751 a752 a753 a754 a755
a756 a757 a758 a759 a75a a75b a75c a75d a75e a75f a760 a761 a762 a763 a764 a765 a766 a767 a768
a769 a76a a76b a76c a76d a76e a76f a779 a77a a77b a77c a77d a77f a780 a781 a782 a783 a784 a785
a786 a787 a78b a78c a78d a78e a790 a791 a792 a793 a796 a797 a798 a799 a79a a79b a79c a79d a79e
a79f a7a0 a7a1 a7a2 a7a3 a7a4 a7a5 a7a6 a7a7 a7a8 a7a9 a7aa a7af a7b0 a7b5 a7b6 a7b7 a7b8 a7b9
a7ba a7bb a7bc a7bd a7be a7bf a7c0 a7c1 a7c2 a7c3 a7c4 a7c8 a7c9 a7ca a7cb a7cd a7d0 a7d1 a7d6
a7d7 a7d8 a7d9 a7da a7db a7dc a7dd a7f5 a7f6 ff21 ff3b 10400 10428 104b0 104d4 10570 1057b 1057c
1058b 1058c 10593 10594 10596 10c80 10cb3 10d50 10d66 118a0 118c0 16e40 16e60 1d400 1d41a 1d434
1d44e 1d468 1d482 1d49c 1d49d 1d49e 1d4a0 1d4a2 1d4a3 1d4a5 1d4a7 1d4a9 1d4ad 1d4ae 1d4b6 1d4d0
1d4ea 1d504 1d506 1d507 1d50b 1d50d 1d515 1d516 1d51d 1d538 1d53a 1d53b 1d53f 1d540 1d545 1d546
1d547 1d54a 1d551 1d56c 1d586 1d5a0 1d5ba 1d5d4 1d5ee 1d608 1d622 1d63c 1d656 1d670 1d68a 1d6a8
1d6c1 1d6e2 1d6fb 1d71c 1d735 1d756 1d76f 1d790 1d7a9 1d7ca 1d7cb 1e900 1e922 1f130 1f14a 1f150
1f16a 1f170 1f18a")]

/-- The classes at the boundaries of words. -/
def words : List (String × String) :=
  [("le aletter", "41 5b 61 7b aa ab b5 b6 ba bb c0 d7 d8 f7 f8 2d8 2de 300 370 375 376 378 37a
37e 37f 380 386 387 388 38b 38c 38d 38e 3a2 3a3 3f6 3f7 482 48a 530 531 557 559 55d 55e 55f 560
589 58a 58b 5f3 5f4 620 64b 66e 670 671 6d4 6d5 6d6 6e5 6e7 6ee 6f0 6fa 6fd 6ff 700 70f 711 712
730 74d 7a6 7b1 7b2 7ca 7eb 7f4 7f6 7fa 7fb 800 816 81a 81b 824 825 828 829 840 859 860 86b 870
888 889 88f 8a0 8ca 904 93a 93d 93e 950 951 958 962 971 981 985 98d 98f 991 993 9a9 9aa 9b1 9b2
9b3 9b6 9ba 9bd 9be 9ce 9cf 9dc 9de 9df 9e2 9f0 9f2 9fc 9fd a05 a0b a0f a11 a13 a29 a2a a31 a32
a34 a35 a37 a38 a3a a59 a5d a5e a5f a72 a75 a85 a8e a8f a92 a93 aa9 aaa ab1 ab2 ab4 ab5 aba abd
abe ad0 ad1 ae0 ae2 af9 afa b05 b0d b0f b11 b13 b29 b2a b31 b32 b34 b35 b3a b3d b3e b5c b5e b5f
b62 b71 b72 b83 b84 b85 b8b b8e b91 b92 b96 b99 b9b b9c b9d b9e ba0 ba3 ba5 ba8 bab bae bba bd0
bd1 c05 c0d c0e c11 c12 c29 c2a c3a c3d c3e c58 c5b c5d c5e c60 c62 c80 c81 c85 c8d c8e c91 c92
ca9 caa cb4 cb5 cba cbd cbe cdd cdf ce0 ce2 cf1 cf3 d04 d0d d0e d11 d12 d3b d3d d3e d4e d4f d54
d57 d5f d62 d7a d80 d85 d97 d9a db2 db3 dbc dbd dbe dc0 dc7 f00 f01 f40 f48 f49 f6d f88 f8d 10a0
10c6 10c7 10c8 10cd 10ce 10d0 10fb 10fc 1249 124a 124e 1250 1257 1258 1259 125a 125e 1260 1289
128a 128e 1290 12b1 12b2 12b6 12b8 12bf 12c0 12c1 12c2 12c6 12c8 12d7 12d8 1311 1312 1316 1318
135b 1380 1390 13a0 13f6 13f8 13fe 1401 166d 166f 1680 1681 169b 16a0 16eb 16ee 16f9 1700 1712
171f 1732 1740 1752 1760 176d 176e 1771 1820 1879 1880 1885 1887 18a9 18aa 18ab 18b0 18f6 1900
191f 1a00 1a17 1b05 1b34 1b45 1b4d 1b83 1ba1 1bae 1bb0 1bba 1be6 1c00 1c24 1c4d 1c50 1c5a 1c7e
1c80 1c8b 1c90 1cbb 1cbd 1cc0 1ce9 1ced 1cee 1cf4 1cf5 1cf7 1cfa 1cfb 1d00 1dc0 1e00 1f16 1f18
1f1e 1f20 1f46 1f48 1f4e 1f50 1f58 1f59 1f5a 1f5b 1f5c 1f5d 1f5e 1f5f 1f7e 1f80 1fb5 1fb6 1fbd
1fbe 1fbf 1fc2 1fc5 1fc6 1fcd 1fd0 1fd4 1fd6 1fdc 1fe0 1fed 1ff2 1ff5 1ff6 1ffd 2071 2072 207f
2080 2090 209d 2102 2103 2107 2108 210a 2114 2115 2116 2119 211e 2124 2125 2126 2127 2128 2129
212a 212e 212f 213a 213c 2140 2145 214a 214e 214f 2160 2189 24b6 24ea 2c00 2ce5 2ceb 2cef 2cf2
2cf4 2d00 2d26 2d27 2d28 2d2d 2d2e 2d30 2d68 2d6f 2d70 2d80 2d97 2da0 2da7 2da8 2daf 2db0 2db7
2db8 2dbf 2dc0 2dc7 2dc8 2dcf 2dd0 2dd7 2dd8 2ddf 2e2f 2e30 3005 3006 303b 303d 3105 3130 3131
318f 31a0 31c0 a000 a48d a4d0 a4fe a500 a60d a610 a620 a62a a62c a640 a66f a67f a69e a6a0 a6f0
a708 a7ce a7d0 a7d2 a7d3 a7d4 a7d5 a7dd a7f2 a802 a803 a806 a807 a80b a80c a823 a840 a874 a882
a8b4 a8f2 a8f8 a8fb a8fc a8fd a8ff a90a a926 a930 a947 a960 a97d a984 a9b3 a9cf a9d0 aa00 aa29
aa40 aa43 aa44 aa4c aae0 aaeb aaf2 aaf5 ab01 ab07 ab09 ab0f ab11 ab17 ab20 ab27 ab28 ab2f ab30
ab6a ab70 abe3 ac00 d7a4 d7b0 d7c7 d7cb d7fc fb00 fb07 fb13 fb18 fb50 fbb2 fbd3 fd3e fd50 fd90
fd92 fdc8 fdf0 fdfc fe70 fe75 fe76 fefd ff21 ff3b ff41 ff5b ffa0 ffbf ffc2 ffc8 ffca ffd0 ffd2
ffd8 ffda ffdd 10000 1000c 1000d 10027 10028 1003b 1003c 1003e 1003f 1004e 10050 1005e 10080
100fb 10140 10175 10280 1029d 102a0 102d1 10300 10320 1032d 1034b 10350 10376 10380 1039e 103a0
103c4 103c8 103d0 103d1 103d6 10400 1049e 104b0 104d4 104d8 104fc 10500 10528 10530 10564 10570
1057b 1057c 1058b 1058c 10593 10594 10596 10597 105a2 105a3 105b2 105b3 105ba 105bb 105bd 105c0
105f4 10600 10737 10740 10756 10760 10768 10780 10786 10787 107b1 107b2 107bb 10800 10806 10808
10809 1080a 10836 10837 10839 1083c 1083d 1083f 10856 10860 10877 10880 1089f 108e0 108f3 108f4
108f6 10900 10916 10920 1093a 10980 109b8 109be 109c0 10a00 10a01 10a10 10a14 10a15 10a18 10a19
10a36 10a60 10a7d 10a80 10a9d 10ac0 10ac8 10ac9 10ae5 10b00 10b36 10b40 10b56 10b60 10b73 10b80
10b92 10c00 10c49 10c80 10cb3 10cc0 10cf3 10d00 10d24 10d4a 10d66 10d6f 10d86 10e80 10eaa 10eb0
10eb2 10ec2 10ec5 10f00 10f1d 10f27 10f28 10f30 10f46 10f70 10f82 10fb0 10fc5 10fe0 10ff7 11003
11038 11071 11073 11075 11076 11083 110b0 110d0 110e9 11103 11127 11144 11145 11147 11148 11150
11173 11176 11177 11183 111b3 111c1 111c5 111da 111db 111dc 111dd 11200 11212 11213 1122c 1123f
11241 11280 11287 11288 11289 1128a 1128e 1128f 1129e 1129f 112a9 112b0 112df 11305 1130d 1130f
11311 11313 11329 1132a 11331 11332 11334 11335 1133a 1133d 1133e 11350 11351 1135d 11362 11380
1138a 1138b 1138c 1138e 1138f 11390 113b6 113b7 113b8 113d1 113d2 113d3 113d4 11400 11435 11447
1144b 1145f 11462 11480 114b0 114c4 114c6 114c7 114c8 11580 115af 115d8 115dc 11600 11630 11644
11645 11680 116ab 116b8 116b9 11800 1182c 118a0 118e0 118ff 11907 11909 1190a 1190c 11914 11915
11917 11918 11930 1193f 11940 11941 11942 119a0 119a8 119aa 119d1 119e1 119e2 119e3 119e4 11a00
11a01 11a0b 11a33 11a3a 11a3b 11a50 11a51 11a5c 11a8a 11a9d 11a9e 11ab0 11af9 11bc0 11be1 11c00
11c09 11c0a 11c2f 11c40 11c41 11c72 11c90 11d00 11d07 11d08 11d0a 11d0b 11d31 11d46 11d47 11d60
11d66 11d67 11d69 11d6a 11d8a 11d98 11d99 11ee0 11ef3 11f02 11f03 11f04 11f11 11f12 11f34 11fb0
11fb1 12000 1239a 12400 1246f 12480 12544 12f90 12ff1 13000 13430 13441 13447 13460 143fb 14400
14647 16100 1611e 16800 16a39 16a40 16a5f 16a70 16abf 16ad0 16aee 16b00 16b30 16b40 16b44 16b63
16b78 16b7d 16b90 16d40 16d6d 16e40 16e80 16f00 16f4b 16f50 16f51 16f93 16fa0 16fe0 16fe2 16fe3
16fe4 1bc00 1bc6b 1bc70 1bc7d 1bc80 1bc89 1bc90 1bc9a 1d400 1d455 1d456 1d49d 1d49e 1d4a0 1d4a2
1d4a3 1d4a5 1d4a7 1d4a9 1d4ad 1d4ae 1d4ba 1d4bb 1d4bc 1d4bd 1d4c4 1d4c5 1d506 1d507 1d50b 1d50d
1d515 1d516 1d51d 1d51e 1d53a 1d53b 1d53f 1d540 1d545 1d546 1d547 1d54a 1d551 1d552 1d6a6 1d6a8
1d6c1 1d6c2 1d6db 1d6dc 1d6fb 1d6fc 1d715 1d716 1d735 1d736 1d74f 1d750 1d76f 1d770 1d789 1d78a
1d7a9 1d7aa 1d7c3 1d7c4 1d7cc 1df00 1df1f 1df25 1df2b 1e030 1e06e 1e100 1e12d 1e137 1e13e 1e14e
1e14f 1e290 1e2ae 1e2c0 1e2ec 1e4d0 1e4ec 1e5d0 1e5ee 1e5f0 1e5f1 1e7e0 1e7e7 1e7e8 1e7ec 1e7ed
1e7ef 1e7f0 1e7ff 1e800 1e8c5 1e900 1e944 1e94b 1e94c 1ee00 1ee04 1ee05 1ee20 1ee21 1ee23 1ee24
1ee25 1ee27 1ee28 1ee29 1ee33 1ee34 1ee38 1ee39 1ee3a 1ee3b 1ee3c 1ee42 1ee43 1ee47 1ee48 1ee49
1ee4a 1ee4b 1ee4c 1ee4d 1ee50 1ee51 1ee53 1ee54 1ee55 1ee57 1ee58 1ee59 1ee5a 1ee5b 1ee5c 1ee5d
1ee5e 1ee5f 1ee60 1ee61 1ee63 1ee64 1ee65 1ee67 1ee6b 1ee6c 1ee73 1ee74 1ee78 1ee79 1ee7d 1ee7e
1ee7f 1ee80 1ee8a 1ee8b 1ee9c 1eea1 1eea4 1eea5 1eeaa 1eeab 1eebc 1f130 1f14a 1f150 1f16a 1f170
1f18a"),
    ("cr", "d e"),
    ("dq doublequote", "22 23"),
    ("extend", "300 370 483 48a 591 5be 5bf 5c0 5c1 5c3 5c4 5c6 5c7 5c8 610 61b 64b 660 670 671
6d6 6dd 6df 6e5 6e7 6e9 6ea 6ee 711 712 730 74b 7a6 7b1 7eb 7f4 7fd 7fe 816 81a 81b 824 825 828
829 82e 859 85c 897 8a0 8ca 8e2 8e3 904 93a 93d 93e 950 951 958 962 964 981 984 9bc 9bd 9be 9c5
9c7 9c9 9cb 9ce 9d7 9d8 9e2 9e4 9fe 9ff a01 a04 a3c a3d a3e a43 a47 a49 a4b a4e a51 a52 a70 a72
a75 a76 a81 a84 abc abd abe ac6 ac7 aca acb ace ae2 ae4 afa b00 b01 b04 b3c b3d b3e b45 b47 b49
b4b b4e b55 b58 b62 b64 b82 b83 bbe bc3 bc6 bc9 bca bce bd7 bd8 c00 c05 c3c c3d c3e c45 c46 c49
c4a c4e c55 c57 c62 c64 c81 c84 cbc cbd cbe cc5 cc6 cc9 cca cce cd5 cd7 ce2 ce4 cf3 cf4 d00 d04
d3b d3d d3e d45 d46 d49 d4a d4e d57 d58 d62 d64 d81 d84 dca dcb dcf dd5 dd6 dd7 dd8 de0 df2 df4
e31 e32 e34 e3b e47 e4f eb1 eb2 eb4 ebd ec8 ecf f18 f1a f35 f36 f37 f38 f39 f3a f3e f40 f71 f85
f86 f88 f8d f98 f99 fbd fc6 fc7 102b 103f 1056 105a 105e 1061 1062 1065 1067 106e 1071 1075 1082
108e 108f 1090 109a 109e 135d 1360 1712 1716 1732 1735 1752 1754 1772 1774 17b4 17d4 17dd 17de
180b 180e 180f 1810 1885 1887 18a9 18aa 1920 192c 1930 193c 1a17 1a1c 1a55 1a5f 1a60 1a7d 1a7f
1a80 1ab0 1acf 1b00 1b05 1b34 1b45 1b6b 1b74 1b80 1b83 1ba1 1bae 1be6 1bf4 1c24 1c38 1cd0 1cd3
1cd4 1ce9 1ced 1cee 1cf4 1cf5 1cf7 1cfa 1dc0 1e00 200c 200d 20d0 20f1 2cef 2cf2 2d7f 2d80 2de0
2e00 302a 3030 3099 309b a66f a673 a674 a67e a69e a6a0 a6f0 a6f2 a802 a803 a806 a807 a80b a80c
a823 a828 a82c a82d a880 a882 a8b4 a8c6 a8e0 a8f2 a8ff a900 a926 a92e a947 a954 a980 a984 a9b3
a9c1 a9e5 a9e6 aa29 aa37 aa43 aa44 aa4c aa4e aa7b aa7e aab0 aab1 aab2 aab5 aab7 aab9 aabe aac0
aac1 aac2 aaeb aaf0 aaf5 aaf7 abe3 abeb abec abee fb1e fb1f fe00 fe10 fe20 fe30 ff9e ffa0 101fd
101fe 102e0 102e1 10376 1037b 10a01 10a04 10a05 10a07 10a0c 10a10 10a38 10a3b 10a3f 10a40 10ae5
10ae7 10d24 10d28 10d69 10d6e 10eab 10ead 10efc 10f00 10f46 10f51 10f82 10f86 11000 11003 11038
11047 11070 11071 11073 11075 1107f 11083 110b0 110bb 110c2 110c3 11100 11103 11127 11135 11145
11147 11173 11174 11180 11183 111b3 111c1 111c9 111cd 111ce 111d0 1122c 11238 1123e 1123f 11241
11242 112df 112eb 11300 11304 1133b 1133d 1133e 11345 11347 11349 1134b 1134e 11357 11358 11362
11364 11366 1136d 11370 11375 113b8 113c1 113c2 113c3 113c5 113c6 113c7 113cb 113cc 113d1 113d2
113d3 113e1 113e3 11435 11447 1145e 1145f 114b0 114c4 115af 115b6 115b8 115c1 115dc 115de 11630
11641 116ab 116b8 1171d 1172c 1182c 1183b 11930 11936 11937 11939 1193b 1193f 11940 11941 11942
11944 119d1 119d8 119da 119e1 119e4 119e5 11a01 11a0b 11a33 11a3a 11a3b 11a3f 11a47 11a48 11a51
11a5c 11a8a 11a9a 11c2f 11c37 11c38 11c40 11c92 11ca8 11ca9 11cb7 11d31 11d37 11d3a 11d3b 11d3c
11d3e 11d3f 11d46 11d47 11d48 11d8a 11d8f 11d90 11d92 11d93 11d98 11ef3 11ef7 11f00 11f02 11f03
11f04 11f34 11f3b 11f3e 11f43 11f5a 11f5b 13440 13441 13447 13456 1611e 16130 16af0 16af5 16b30
16b37 16f4f 16f50 16f51 16f88 16f8f 16f93 16fe4 16fe5 16ff0 16ff2 1bc9d 1bc9f 1cf00 1cf2e 1cf30
1cf47 1d165 1d16a 1d16d 1d173 1d17b 1d183 1d185 1d18c 1d1aa 1d1ae 1d242 1d245 1da00 1da37 1da3b
1da6d 1da75 1da76 1da84 1da85 1da9b 1daa0 1daa1 1dab0 1e000 1e007 1e008 1e019 1e01b 1e022 1e023
1e025 1e026 1e02b 1e08f 1e090 1e130 1e137 1e2ae 1e2af 1e2ec 1e2f0 1e4ec 1e4f0 1e5ee 1e5f0 1e8d0
1e8d7 1e944 1e94b 1f3fb 1f400 e0020 e0080 e0100 e01f0"),
    ("ex extendnumlet", "5f 60 202f 2030 203f 2041 2054 2055 fe33 fe35 fe4d fe50 ff3f ff40"),
    ("fo format", "ad ae 61c 61d 180e 180f 200e 2010 202a 202f 2060 2065 2066 2070 feff ff00 fff9
fffc 13430 13440 1bca0 1bca4 1d173 1d17b e0001 e0002"),
    ("hl hebrewletter", "5d0 5eb 5ef 5f3 fb1d fb1e fb1f fb29 fb2a fb37 fb38 fb3d fb3e fb3f fb40
fb42 fb43 fb45 fb46 fb50"),
    ("ka katakana", "3031 3036 309b 309d 30a0 30fb 30fc 3100 31f0 3200 32d0 32ff 3300 3358 ff66
ff9e 1aff0 1aff4 1aff5 1affc 1affd 1afff 1b000 1b001 1b120 1b123 1b155 1b156 1b164 1b168"),
    ("lf", "a b"),
    ("ml midletter", "3a 3b b7 b8 387 388 55f 560 5f4 5f5 2027 2028 fe13 fe14 fe55 fe56 ff1a
ff1b"),
    ("mn midnum", "2c 2d 3b 3c 37e 37f 589 58a 60c 60e 66c 66d 7f8 7f9 2044 2045 fe50 fe51 fe54
fe55 ff0c ff0d ff1b ff1c"),
    ("mb midnumlet", "2e 2f 2018 201a 2024 2025 fe52 fe53 ff07 ff08 ff0e ff0f"),
    ("nl newline", "b d 85 86 2028 202a"),
    ("nu numeric", "30 3a 600 606 660 66a 66b 66c 6dd 6de 6f0 6fa 7c0 7ca 890 892 8e2 8e3 966 970
9e6 9f0 a66 a70 ae6 af0 b66 b70 be6 bf0 c66 c70 ce6 cf0 d66 d70 de6 df0 e50 e5a ed0 eda f20 f2a
1040 104a 1090 109a 17e0 17ea 1810 181a 1946 1950 19d0 19db 1a80 1a8a 1a90 1a9a 1b50 1b5a 1bb0
1bba 1c40 1c4a 1c50 1c5a a620 a62a a8d0 a8da a900 a90a a9d0 a9da a9f0 a9fa aa50 aa5a abf0 abfa
ff10 ff1a 104a0 104aa 10d30 10d3a 10d40 10d4a 11066 11070 110bd 110be 110cd 110ce 110f0 110fa
11136 11140 111d0 111da 112f0 112fa 11450 1145a 114d0 114da 11650 1165a 116c0 116ca 116d0 116e4
11730 1173a 118e0 118ea 11950 1195a 11bf0 11bfa 11c50 11c5a 11d50 11d5a 11da0 11daa 11f50 11f5a
16130 1613a 16a60 16a6a 16ac0 16aca 16b50 16b5a 16d70 16d7a 1ccf0 1ccfa 1d7ce 1d800 1e140 1e14a
1e2f0 1e2fa 1e4f0 1e4fa 1e5f1 1e5fb 1e950 1e95a 1fbf0 1fbfa"),
    ("ri regionalindicator", "1f1e6 1f200"),
    ("sq singlequote", "27 28"),
    ("wsegspace", "20 21 1680 1681 2000 2007 2008 200b 205f 2060 3000 3001"),
    ("zwj", "200d 200e")]

end BoundaryTable
end Pattern
end RequestGuard

import LogPipeline.Text.Numbers

/-!
# Direction of writing

A domain name with a part that is read from right to left is only clear if each of its parts keeps
to one direction.
-/

namespace LogPipeline.Url.Domain

/-- Letters read from left to right. -/
def leftRanges : Text.Ranges := Text.rangesOf
  "41-5a 61-7a aa b5 ba c0-d6 d8-f6 f8-2b8 2bb-2c1 2d0-2d1 2e0-2e4 2ee 370-373 376-37d 37f-383
   386 388-3f5 3f7-482 48a-589 58b-58c 903-939 93b 93d-940 949-94c 94e-950 958-961 964-980
   982-9bb 9bd-9c0 9c5-9cc 9ce-9e1 9e4-9f1 9f4-9fa 9fc-9fd 9ff-a00 a03-a3b a3d-a40 a43-a46
   a49-a4a a4e-a50 a52-a6f a72-a74 a76-a80 a83-abb abd-ac0 ac6 ac9-acc ace-ae1 ae4-af0 af2-af9
   b00 b02-b3b b3d-b3e b40 b45-b4c b4e-b52 b57-b61 b64-b81 b83-bbf bc1-bcc bce-bf2 bfb-bff
   c01-c03 c05-c3b c3d c41-c45 c49 c4e-c54 c57-c61 c64-c77 c7f-c80 c82-cbb cbd-ccb cce-ce1
   ce4-cff d02-d3a d3d-d40 d45-d4c d4e-d61 d64-d80 d82-dc9 dcb-dd1 dd5 dd7-e30 e32-e33 e3b-e3e
   e40-e46 e4f-eb0 eb2-eb3 ebd-ec7 ecf-f17 f1a-f34 f36 f38 f3e-f70 f7f f85 f88-f8c f98 fbd-fc5
   fc7-102c 1031 1038 103b-103c 103f-1057 105a-105d 1061-1070 1075-1081 1083-1084 1087-108c
   108e-109c 109e-135c 1360-138f 139a-13ff 1401-167f 1681-169a 169d-1711 1715-1731 1734-1751
   1754-1771 1774-17b3 17b6 17be-17c5 17c7-17c8 17d4-17da 17dc 17de-17ef 17fa-17ff 1810-1884
   1887-18a8 18aa-191f 1923-1926 1929-1931 1933-1938 193c-193f 1941-1943 1946-19dd 1a00-1a16
   1a19-1a1a 1a1c-1a55 1a57 1a5f 1a61 1a63-1a64 1a6d-1a72 1a7d-1a7e 1a80-1aaf 1b04-1b33 1b35
   1b3a-1b3b 1b3d-1b41 1b43-1b6a 1b74-1b7f 1b82-1ba1 1ba6-1ba7 1baa 1bae-1be5 1be7 1bea-1bec
   1bee 1bf2-1c2b 1c34-1c35 1c38-1ccf 1cd3 1ce1 1ce9-1cec 1cee-1cf3 1cf5-1cf7 1cfa-1dbf
   1e00-1fbc 1fbe 1fc2-1fcc 1fd0-1fdc 1fe0-1fec 1ff0-1ffc 1fff 200e 2071-2073 207f 2090-209f
   2102 2107 210a-2113 2115 2119-211d 2124 2126 2128 212a-212d 212f-2139 213c-213f 2145-2149
   214e-214f 2160-2188 218c-218f 2336-237a 2395 242a-243f 244b-245f 249c-24e9 26ac 2800-28ff
   2b74-2b75 2c00-2ce4 2ceb-2cee 2cf2-2cf8 2d00-2d7e 2d80-2ddf 2e9a 2ef4-2eff 2fd6-2fef
   3005-3007 3021-3029 302e-302f 3031-3035 3038-303c 3040-3098 309d-309f 30a1-30fa 30fc-31bf
   31f0-321c 321f-324f 3260-327b 327f-32b0 32c0-32cb 32d0-3376 337b-33dd 33e0-33fe 3400-4dbf
   4e00-a48f a4c7-a60c a610-a66e a680-a69d a6a0-a6ef a6f2-a6ff a722-a787 a789-a801 a803-a805
   a807-a80a a80c-a824 a827 a82d-a837 a83a-a873 a878-a8c3 a8c6-a8df a8f2-a8fe a900-a925
   a92e-a946 a952-a97f a983-a9b2 a9b4-a9b5 a9ba-a9bb a9be-a9e4 a9e6-aa28 aa2f-aa30 aa33-aa34
   aa37-aa42 aa44-aa4b aa4d-aa7b aa7d-aaaf aab1 aab5-aab6 aab9-aabd aac0 aac2-aaeb aaee-aaf5
   aaf7-ab69 ab6c-abe4 abe6-abe7 abe9-abec abee-fb1c fe1a-fe1f fe53 fe67 fe6c-fe6f ff00
   ff21-ff3a ff41-ff5a ff66-ffdf ffe7 ffef 10000-10100 10102-1013f 1018d-1018f 1019d-1019f
   101a1-101fc 101fe-102df 102fc-10375 1037b-107ff 11000 11002-11037 11047-11051 11066-1106f
   11071-11072 11075-1107e 11082-110b2 110b7-110b8 110bb-110c1 110c3-110ff 11103-11126 1112c
   11135-11172 11174-1117f 11182-111b5 111bf-111c8 111cd-111ce 111d0-1122e 11232-11233 11235
   11238-1123d 1123f-11240 11242-112de 112e0-112e2 112eb-112ff 11302-1133a 1133d-1133f
   11341-11365 1136d-1136f 11375-113ba 113c1-113cd 113cf 113d1 113d3-113e0 113e3-11437
   11440-11441 11445 11447-1145d 1145f-114b2 114b9 114bb-114be 114c1 114c4-115b1 115b6-115bb
   115be 115c1-115db 115de-11632 1163b-1163c 1163e 11641-1165f 1166d-116aa 116ac 116ae-116af
   116b6 116b8-1171c 1171e 11720-11721 11726 1172c-1182e 11838 1183b-1193a 1193d 1193f-11942
   11944-119d3 119d8-119d9 119dc-119df 119e1-11a00 11a07-11a08 11a0b-11a32 11a39-11a3a
   11a3f-11a46 11a48-11a50 11a57-11a58 11a5c-11a89 11a97 11a9a-11b5f 11b61 11b65 11b67-11c2f
   11c37 11c3e-11c91 11ca8-11ca9 11cb1 11cb4 11cb7-11d30 11d37-11d39 11d3b 11d3e 11d46
   11d48-11d8f 11d92-11d94 11d96 11d98-11def 11e00-11ef2 11ef5-11eff 11f02-11f35 11f3b-11f3f
   11f41 11f43-11f59 11f5b-11fd4 11ff2-1343f 13441-13446 13456-1611d 1612a-1612c 16130-16aef
   16af5-16b2f 16b37-16f4e 16f50-16f8e 16f93-16fe1 16fe3 16fe5-1bc9c 1bc9f 1bca4-1cbff
   1ccd6-1ccef 1cf2e-1cf2f 1cf47-1d126 1d129-1d166 1d16a-1d172 1d183-1d184 1d18c-1d1a9
   1d1ae-1d1e8 1d246-1d24f 1d290-1d2ff 1d357-1d6c0 1d6c2-1d6da 1d6dc-1d6fa 1d6fc-1d714
   1d716-1d734 1d736-1d74e 1d750-1d76e 1d770-1d788 1d78a-1d7a8 1d7aa-1d7c2 1d7c4-1d7cd
   1d800-1d9ff 1da37-1da3a 1da6d-1da74 1da76-1da83 1da85-1da9a 1daa0 1dab0-1daff 1dc00-1dfff
   1e007 1e019-1e01a 1e022 1e025 1e02b-1e08e 1e090-1e12f 1e137-1e2ad 1e2af-1e2eb 1e2f0-1e2fe
   1e300-1e4eb 1e4f0-1e5ed 1e5f0-1e6e2 1e6e4-1e6e5 1e6e7-1e6ed 1e6f0-1e6f4 1e6f6-1e7ff
   1f02c-1f02f 1f094-1f09f 1f0af-1f0b0 1f0c0 1f0d0 1f0f6-1f0ff 1f110-1f12e 1f130-1f169
   1f170-1f1ac 1f1ae-1f25f 1f266-1f2ff 1f80c-1f80f 1f848-1f84f 1f85a-1f85f 1f888-1f88f
   1f8ae-1f8af 1fb93 1fc00-1fffd 20000-2fffd 30000-3fffd 40000-4fffd 50000-5fffd 60000-6fffd
   70000-7fffd 80000-8fffd 90000-9fffd a0000-afffd b0000-bfffd c0000-cfffd d0000-dfffd
   e1000-efffd f0000-ffffd 100000-10fffd"

/-- Letters read from right to left. -/
def rightRanges : Text.Ranges := Text.rangesOf
  "590 5be 5c0 5c3 5c6 5c8-5ff 7c0-7ea 7f4-7f5 7fa-7fc 7fe-815 81a 824 828 82e-858 85c-85f 200f
   fb1d fb1f-fb28 fb2a-fb4f 10800-1091e 10920-10a00 10a04 10a07-10a0b 10a10-10a37 10a3b-10a3e
   10a40-10ae4 10ae7-10b38 10b40-10cff 10d4a-10d68 10d6f-10e5f 10e7f-10eaa 10ead-10ebf
   10f00-10f2f 10f70-10f81 10f86-10fff 1e800-1e8cf 1e8d7-1e943 1e94b-1ec6f 1ecc0-1ecff
   1ed50-1edff 1ef00-1efff"

/-- Letters of Arabic and related scripts. -/
def arabicRanges : Text.Ranges := Text.rangesOf
  "608 60b 60d 61b-64a 66d-66f 671-6d5 6e5-6e6 6ee-6ef 6fa-710 712-72f 74b-7a5 7b1-7bf 860-88f
   892-896 8a0-8c9 fb50-fbc2 fbd3-fd3d fd50-fd8f fd92-fdc7 fdf0-fdfc fe70-fefe 10d00-10d23
   10d28-10d2f 10d3a-10d3f 10ec0-10ecf 10ed9-10ee8 10eea-10ef9 10f30-10f45 10f51-10f6f
   1ec70-1ecbf 1ed00-1ed4f 1ee00-1eeef 1eef2-1eeff"

/-- Arabic digits. -/
def arabicNumberRanges : Text.Ranges := Text.rangesOf
  "600-605 660-669 66b-66c 6dd 890-891 8e2 10d30-10d39 10d40-10d49 10e60-10e7e"

/-- European digits. -/
def numberRanges : Text.Ranges := Text.rangesOf
  "30-39 b2-b3 b9 6f0-6f9 2070 2074-2079 2080-2089 2488-249b ff10-ff19 102e1-102fb 1ccf0-1ccf9
   1d7ce-1d7ff 1f100-1f10a 1fbf0-1fbf9"

/-- Signs of numbers. -/
def numberSignRanges : Text.Ranges := Text.rangesOf
  "2b 2d 207a-207b 208a-208b 2212 fb29 fe62-fe63 ff0b ff0d"

/-- Separators in numbers. -/
def numberSeparatorRanges : Text.Ranges := Text.rangesOf
  "2c 2e-2f 3a a0 60c 202f 2044 fe50 fe52 fe55 ff0c ff0e-ff0f ff1a"

/-- Signs before or behind numbers. -/
def numberEndRanges : Text.Ranges := Text.rangesOf
  "23-25 a2-a5 b0-b1 58f 609-60a 66a 9f2-9f3 9fb af1 bf9 e3f 17db 2030-2034 20a0-20cf 212e 2213
   a838-a839 fe5f fe69-fe6a ff03-ff05 ffe0-ffe1 ffe5-ffe6 11fdd-11fe0 1e2ff"

/-- Characters without a direction. -/
def neutralRanges : Text.Ranges := Text.rangesOf
  "21-22 26-2a 3b-40 5b-60 7b-7e a1 a6-a9 ab-ac ae-af b4 b6-b8 bb-bf d7 f7 2b9-2ba 2c2-2cf
   2d2-2df 2e5-2ed 2ef-2ff 374-375 37e 384-385 387 3f6 58a 58d-58e 606-607 60e-60f 6de 6e9
   7f6-7f9 bf3-bf8 bfa c78-c7e f3a-f3d 1390-1399 1400 169b-169c 17f0-17f9 1800-180a 1940
   1944-1945 19de-19ff 1fbd 1fbf-1fc1 1fcd-1fcf 1fdd-1fdf 1fed-1fef 1ffd-1ffe 2010-2027
   2035-2043 2045-205e 207c-207e 208c-208f 2100-2101 2103-2106 2108-2109 2114 2116-2118
   211e-2123 2125 2127 2129 213a-213b 2140-2144 214a-214d 2150-215f 2189-218b 2190-2211
   2214-2335 237b-2394 2396-2429 2440-244a 2460-2487 24ea-26ab 26ad-27ff 2900-2b73 2b76-2bff
   2ce5-2cea 2cf9-2cff 2e00-2e99 2e9b-2ef3 2f00-2fd5 2ff0-2fff 3001-3004 3008-3020 3030
   3036-3037 303d-303f 309b-309c 30a0 30fb 31c0-31ef 321d-321e 3250-325f 327c-327e 32b1-32bf
   32cc-32cf 3377-337a 33de-33df 33ff 4dc0-4dff a490-a4c6 a60d-a60f a673 a67e-a67f a700-a721
   a788 a828-a82b a874-a877 ab6a-ab6b fbc3-fbd2 fd3e-fd4f fd90-fd91 fdc8-fdcf fdfd-fdff
   fe10-fe19 fe30-fe4f fe51 fe54 fe56-fe5e fe60-fe61 fe64-fe66 fe68 fe6b ff01-ff02 ff06-ff0a
   ff1b-ff20 ff3b-ff40 ff5b-ff65 ffe2-ffe4 ffe8-ffee fff9-fffd 10101 10140-1018c 10190-1019c
   101a0 1091f 10b39-10b3f 10d6e 10ed0-10ed8 11052-11065 11660-1166c 11fd5-11fdc 11fe1-11ff1
   16fe2 1cc00-1ccd5 1ccfa-1ceff 1d127-1d128 1d1e9-1d241 1d245 1d250-1d28f 1d300-1d356 1d6c1
   1d6db 1d6fb 1d715 1d735 1d74f 1d76f 1d789 1d7a9 1d7c3 1db00-1dbff 1eef0-1eef1 1f000-1f02b
   1f030-1f093 1f0a0-1f0ae 1f0b1-1f0bf 1f0c1-1f0cf 1f0d1-1f0f5 1f10b-1f10f 1f12f 1f16a-1f16f
   1f1ad 1f260-1f265 1f300-1f80b 1f810-1f847 1f850-1f859 1f860-1f887 1f890-1f8ad 1f8b0-1fb92
   1fb94-1fbef 1fbfa-1fbff"

/-- Invisible characters. -/
def boundaryRanges : Text.Ranges := Text.rangesOf
  "0-8 e-1b 7f-84 86-9f ad 180e 200b-200d 2060-2065 206a-206f fdd0-fdef feff fff0-fff8
   fffe-ffff 1bca0-1bca3 1d173-1d17a 1fffe-1ffff 2fffe-2ffff 3fffe-3ffff 4fffe-4ffff
   5fffe-5ffff 6fffe-6ffff 7fffe-7ffff 8fffe-8ffff 9fffe-9ffff afffe-affff bfffe-bffff
   cfffe-cffff dfffe-e00ff e01f0-e0fff efffe-effff ffffe-fffff 10fffe-10ffff"

/-- Marks on other characters. -/
def markRanges : Text.Ranges := Text.rangesOf
  "300-36f 483-489 591-5bd 5bf 5c1-5c2 5c4-5c5 5c7 610-61a 64b-65f 670 6d6-6dc 6df-6e4 6e7-6e8
   6ea-6ed 711 730-74a 7a6-7b0 7eb-7f3 7fd 816-819 81b-823 825-827 829-82d 859-85b 897-89f
   8ca-8e1 8e3-902 93a 93c 941-948 94d 951-957 962-963 981 9bc 9c1-9c4 9cd 9e2-9e3 9fe a01-a02
   a3c a41-a42 a47-a48 a4b-a4d a51 a70-a71 a75 a81-a82 abc ac1-ac5 ac7-ac8 acd ae2-ae3 afa-aff
   b01 b3c b3f b41-b44 b4d b53-b56 b62-b63 b82 bc0 bcd c00 c04 c3c c3e-c40 c46-c48 c4a-c4d
   c55-c56 c62-c63 c81 cbc ccc-ccd ce2-ce3 d00-d01 d3b-d3c d41-d44 d4d d62-d63 d81 dca dd2-dd4
   dd6 e31 e34-e3a e47-e4e eb1 eb4-ebc ec8-ece f18-f19 f35 f37 f39 f71-f7e f80-f84 f86-f87
   f8d-f97 f99-fbc fc6 102d-1030 1032-1037 1039-103a 103d-103e 1058-1059 105e-1060 1071-1074
   1082 1085-1086 108d 109d 135d-135f 1712-1714 1732-1733 1752-1753 1772-1773 17b4-17b5
   17b7-17bd 17c6 17c9-17d3 17dd 180b-180d 180f 1885-1886 18a9 1920-1922 1927-1928 1932
   1939-193b 1a17-1a18 1a1b 1a56 1a58-1a5e 1a60 1a62 1a65-1a6c 1a73-1a7c 1a7f 1ab0-1b03 1b34
   1b36-1b39 1b3c 1b42 1b6b-1b73 1b80-1b81 1ba2-1ba5 1ba8-1ba9 1bab-1bad 1be6 1be8-1be9 1bed
   1bef-1bf1 1c2c-1c33 1c36-1c37 1cd0-1cd2 1cd4-1ce0 1ce2-1ce8 1ced 1cf4 1cf8-1cf9 1dc0-1dff
   20d0-20ff 2cef-2cf1 2d7f 2de0-2dff 302a-302d 3099-309a a66f-a672 a674-a67d a69e-a69f
   a6f0-a6f1 a802 a806 a80b a825-a826 a82c a8c4-a8c5 a8e0-a8f1 a8ff a926-a92d a947-a951
   a980-a982 a9b3 a9b6-a9b9 a9bc-a9bd a9e5 aa29-aa2e aa31-aa32 aa35-aa36 aa43 aa4c aa7c aab0
   aab2-aab4 aab7-aab8 aabe-aabf aac1 aaec-aaed aaf6 abe5 abe8 abed fb1e fe00-fe0f fe20-fe2f
   101fd 102e0 10376-1037a 10a01-10a03 10a05-10a06 10a0c-10a0f 10a38-10a3a 10a3f 10ae5-10ae6
   10d24-10d27 10d69-10d6d 10eab-10eac 10ee9 10efa-10eff 10f46-10f50 10f82-10f85 11001
   11038-11046 11070 11073-11074 1107f-11081 110b3-110b6 110b9-110ba 110c2 11100-11102
   11127-1112b 1112d-11134 11173 11180-11181 111b6-111be 111c9-111cc 111cf 1122f-11231 11234
   11236-11237 1123e 11241 112df 112e3-112ea 11300-11301 1133b-1133c 11340 11366-1136c
   11370-11374 113bb-113c0 113ce 113d0 113d2 113e1-113e2 11438-1143f 11442-11444 11446 1145e
   114b3-114b8 114ba 114bf-114c0 114c2-114c3 115b2-115b5 115bc-115bd 115bf-115c0 115dc-115dd
   11633-1163a 1163d 1163f-11640 116ab 116ad 116b0-116b5 116b7 1171d 1171f 11722-11725
   11727-1172b 1182f-11837 11839-1183a 1193b-1193c 1193e 11943 119d4-119d7 119da-119db 119e0
   11a01-11a06 11a09-11a0a 11a33-11a38 11a3b-11a3e 11a47 11a51-11a56 11a59-11a5b 11a8a-11a96
   11a98-11a99 11b60 11b62-11b64 11b66 11c30-11c36 11c38-11c3d 11c92-11ca7 11caa-11cb0
   11cb2-11cb3 11cb5-11cb6 11d31-11d36 11d3a 11d3c-11d3d 11d3f-11d45 11d47 11d90-11d91 11d95
   11d97 11df0-11dff 11ef3-11ef4 11f00-11f01 11f36-11f3a 11f40 11f42 11f5a 13440 13447-13455
   1611e-16129 1612d-1612f 16af0-16af4 16b30-16b36 16f4f 16f8f-16f92 16fe4 1bc9d-1bc9e
   1cf00-1cf2d 1cf30-1cf46 1d167-1d169 1d17b-1d182 1d185-1d18b 1d1aa-1d1ad 1d242-1d244
   1da00-1da36 1da3b-1da6c 1da75 1da84 1da9b-1da9f 1daa1-1daaf 1e000-1e006 1e008-1e018
   1e01b-1e021 1e023-1e024 1e026-1e02a 1e08f 1e130-1e136 1e2ae 1e2ec-1e2ef 1e4ec-1e4ef
   1e5ee-1e5ef 1e6e3 1e6e6 1e6ee-1e6ef 1e6f5 1e8d0-1e8d6 1e944-1e94a e0100-e01ef"

/-- How a character takes part in the direction of a text. -/
inductive Direction where
  | left
  | right
  | arabic
  | arabicNumber
  | number
  | numberSign
  | numberSeparator
  | numberEnd
  | neutral
  | boundary
  | mark
  | other
  deriving DecidableEq, Repr

/-- The classes and their characters. -/
def directionRanges : List (Direction × Text.Ranges) :=
  [(.left, leftRanges), (.right, rightRanges), (.arabic, arabicRanges),
   (.arabicNumber, arabicNumberRanges), (.number, numberRanges), (.numberSign, numberSignRanges),
   (.numberSeparator, numberSeparatorRanges), (.numberEnd, numberEndRanges),
   (.neutral, neutralRanges), (.boundary, boundaryRanges), (.mark, markRanges)]

/-- The class of a character. -/
def direction (c : Char) : Direction :=
  match directionRanges.find? fun r => r.2.contains c.toNat with
  | some r => r.1
  | none => .other

/-- Whether a character makes a name one that is read from right to left. -/
def isRightward (d : Direction) : Bool := d == .right || d == .arabic || d == .arabicNumber

/-- Whether a label keeps to one direction. -/
def keepsDirection (label : List Char) : Bool :=
  let ds := label.map direction
  let last := (ds.reverse.dropWhile (· == .mark)).head?
  let weak : List Direction :=
    [.number, .numberSign, .numberSeparator, .numberEnd, .neutral, .boundary, .mark]
  match ds.head? with
  | none => true
  | some .left =>
    ds.all (fun d => d == .left || weak.contains d) && (last == some .left || last == some .number)
  | some .right | some .arabic =>
    ds.all (fun d => isRightward d || weak.contains d) &&
    (match last with
      | some d => isRightward d || d == .number
      | none => false) &&
    !(ds.contains .number && ds.contains .arabicNumber)
  | some _ => false

end LogPipeline.Url.Domain

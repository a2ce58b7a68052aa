import IncludeTree.Unicode.CodeTable

/-!
# Writing direction

Every character has a class of direction. `Direction.allows` is the rule by which a label of a
domain name that is written from right to left, or stands beside one that is, keeps its direction.
-/

namespace IncludeTree.Unicode

/-- The classes of direction other than left-to-right: `R` and `A` for right-to-left letters, `N`
and `E` for Arabic and European digits, `M` for marks and `S` for separators, terminators and
neutrals. A code point without an entry is a left-to-right letter, or may not stand in a label. -/
def directions : CodeTable := .ofLines [
  "0-8=S e-1b=S 21-2f=S 30-39=E 3a-40=S 5b-60=S 7b-84=S 86-a9=S ab-b1=S b2-b3=E b4=S b6-b8=S",
  "b9=E bb-bf=S d7=S f7=S 2b9-2ba=S 2c2-2cf=S 2d2-2df=S 2e5-2ed=S 2ef-2ff=S 300-36f=M 374-375=S",
  "37e=S 384-385=S 387=S 3f6=S 483-489=M 58a=S 58d-58f=S 591-5bd=M 5be=R 5bf=M 5c0=R 5c1-5c2=M",
  "5c3=R 5c4-5c5=M 5c6=R 5c7=M 5d0-5ea=R 5ef-5f4=R 600-605=N 606-607=S 608=A 609-60a=S 60b=A",
  "60c=S 60d=A 60e-60f=S 610-61a=M 61b-64a=A 64b-65f=M 660-669=N 66a=S 66b-66c=N 66d-66f=A",
  "670=M 671-6d5=A 6d6-6dc=M 6dd=N 6de=S 6df-6e4=M 6e5-6e6=A 6e7-6e8=M 6e9=S 6ea-6ed=M",
  "6ee-6ef=A 6f0-6f9=E 6fa-70d=A 70f-710=A 711=M 712-72f=A 730-74a=M 74d-7a5=A 7a6-7b0=M 7b1=A",
  "7c0-7ea=R 7eb-7f3=M 7f4-7f5=R 7f6-7f9=S 7fa=R 7fd=M 7fe-815=R 816-819=M 81a=R 81b-823=M",
  "824=R 825-827=M 828=R 829-82d=M 830-83e=R 840-858=R 859-85b=M 85e=R 860-86a=A 870-88e=A",
  "890-891=N 898-89f=M 8a0-8c9=A 8ca-8e1=M 8e2=N 8e3-902=M 93a=M 93c=M 941-948=M 94d=M",
  "951-957=M 962-963=M 981=M 9bc=M 9c1-9c4=M 9cd=M 9e2-9e3=M 9f2-9f3=S 9fb=S 9fe=M a01-a02=M",
  "a3c=M a41-a42=M a47-a48=M a4b-a4d=M a51=M a70-a71=M a75=M a81-a82=M abc=M ac1-ac5=M",
  "ac7-ac8=M acd=M ae2-ae3=M af1=S afa-aff=M b01=M b3c=M b3f=M b41-b44=M b4d=M b55-b56=M",
  "b62-b63=M b82=M bc0=M bcd=M bf3-bfa=S c00=M c04=M c3c=M c3e-c40=M c46-c48=M c4a-c4d=M",
  "c55-c56=M c62-c63=M c78-c7e=S c81=M cbc=M ccc-ccd=M ce2-ce3=M d00-d01=M d3b-d3c=M d41-d44=M",
  "d4d=M d62-d63=M d81=M dca=M dd2-dd4=M dd6=M e31=M e34-e3a=M e3f=S e47-e4e=M eb1=M eb4-ebc=M",
  "ec8-ecd=M f18-f19=M f35=M f37=M f39=M f3a-f3d=S f71-f7e=M f80-f84=M f86-f87=M f8d-f97=M",
  "f99-fbc=M fc6=M 102d-1030=M 1032-1037=M 1039-103a=M 103d-103e=M 1058-1059=M 105e-1060=M",
  "1071-1074=M 1082=M 1085-1086=M 108d=M 109d=M 135d-135f=M 1390-1399=S 1400=S 169b-169c=S",
  "1712-1714=M 1732-1733=M 1752-1753=M 1772-1773=M 17b4-17b5=M 17b7-17bd=M 17c6=M 17c9-17d3=M",
  "17db=S 17dd=M 17f0-17f9=S 1800-180a=S 180b-180d=M 180e=S 180f=M 1885-1886=M 18a9=M",
  "1920-1922=M 1927-1928=M 1932=M 1939-193b=M 1940=S 1944-1945=S 19de-19ff=S 1a17-1a18=M 1a1b=M",
  "1a56=M 1a58-1a5e=M 1a60=M 1a62=M 1a65-1a6c=M 1a73-1a7c=M 1a7f=M 1ab0-1ace=M 1b00-1b03=M",
  "1b34=M 1b36-1b3a=M 1b3c=M 1b42=M 1b6b-1b73=M 1b80-1b81=M 1ba2-1ba5=M 1ba8-1ba9=M 1bab-1bad=M",
  "1be6=M 1be8-1be9=M 1bed=M 1bef-1bf1=M 1c2c-1c33=M 1c36-1c37=M 1cd0-1cd2=M 1cd4-1ce0=M",
  "1ce2-1ce8=M 1ced=M 1cf4=M 1cf8-1cf9=M 1dc0-1dff=M 1fbd=S 1fbf-1fc1=S 1fcd-1fcf=S 1fdd-1fdf=S",
  "1fed-1fef=S 1ffd-1ffe=S 200b-200d=S 200f=R 2010-2027=S 202f-205e=S 2060-2064=S 206a-206f=S",
  "2070=E 2074-2079=E 207a-207e=S 2080-2089=E 208a-208e=S 20a0-20c0=S 20d0-20f0=M 2100-2101=S",
  "2103-2106=S 2108-2109=S 2114=S 2116-2118=S 211e-2123=S 2125=S 2127=S 2129=S 212e=S",
  "213a-213b=S 2140-2144=S 214a-214d=S 2150-215f=S 2189-218b=S 2190-2335=S 237b-2394=S",
  "2396-2426=S 2440-244a=S 2460-2487=S 2488-249b=E 24ea-26ab=S 26ad-27ff=S 2900-2b73=S",
  "2b76-2b95=S 2b97-2bff=S 2ce5-2cea=S 2cef-2cf1=M 2cf9-2cff=S 2d7f=M 2de0-2dff=M 2e00-2e5d=S",
  "2e80-2e99=S 2e9b-2ef3=S 2f00-2fd5=S 2ff0-2ffb=S 3001-3004=S 3008-3020=S 302a-302d=M 3030=S",
  "3036-3037=S 303d-303f=S 3099-309a=M 309b-309c=S 30a0=S 30fb=S 31c0-31e3=S 321d-321e=S",
  "3250-325f=S 327c-327e=S 32b1-32bf=S 32cc-32cf=S 3377-337a=S 33de-33df=S 33ff=S 4dc0-4dff=S",
  "a490-a4c6=S a60d-a60f=S a66f-a672=M a673=S a674-a67d=M a67e-a67f=S a69e-a69f=M a6f0-a6f1=M",
  "a700-a721=S a788=S a802=M a806=M a80b=M a825-a826=M a828-a82b=S a82c=M a838-a839=S",
  "a874-a877=S a8c4-a8c5=M a8e0-a8f1=M a8ff=M a926-a92d=M a947-a951=M a980-a982=M a9b3=M",
  "a9b6-a9b9=M a9bc-a9bd=M a9e5=M aa29-aa2e=M aa31-aa32=M aa35-aa36=M aa43=M aa4c=M aa7c=M",
  "aab0=M aab2-aab4=M aab7-aab8=M aabe-aabf=M aac1=M aaec-aaed=M aaf6=M ab6a-ab6b=S abe5=M",
  "abe8=M abed=M fb1d=R fb1e=M fb1f-fb28=R fb29=S fb2a-fb36=R fb38-fb3c=R fb3e=R fb40-fb41=R",
  "fb43-fb44=R fb46-fb4f=R fb50-fbc2=A fbd3-fd3d=A fd3e-fd4f=S fd50-fd8f=A fd92-fdc7=A fdcf=S",
  "fdf0-fdfc=A fdfd-fdff=S fe00-fe0f=M fe10-fe19=S fe20-fe2f=M fe30-fe52=S fe54-fe66=S",
  "fe68-fe6b=S fe70-fe74=A fe76-fefc=A feff=S ff01-ff0f=S ff10-ff19=E ff1a-ff20=S ff3b-ff40=S",
  "ff5b-ff65=S ffe0-ffe6=S ffe8-ffee=S fff9-fffd=S 10101=S 10140-1018c=S 10190-1019c=S 101a0=S",
  "101fd=M 102e0=M 102e1-102fb=E 10376-1037a=M 10800-10805=R 10808=R 1080a-10835=R",
  "10837-10838=R 1083c=R 1083f-10855=R 10857-1089e=R 108a7-108af=R 108e0-108f2=R 108f4-108f5=R",
  "108fb-1091b=R 1091f=S 10920-10939=R 1093f=R 10980-109b7=R 109bc-109cf=R 109d2-10a00=R",
  "10a01-10a03=M 10a05-10a06=M 10a0c-10a0f=M 10a10-10a13=R 10a15-10a17=R 10a19-10a35=R",
  "10a38-10a3a=M 10a3f=M 10a40-10a48=R 10a50-10a58=R 10a60-10a9f=R 10ac0-10ae4=R 10ae5-10ae6=M",
  "10aeb-10af6=R 10b00-10b35=R 10b39-10b3f=S 10b40-10b55=R 10b58-10b72=R 10b78-10b91=R",
  "10b99-10b9c=R 10ba9-10baf=R 10c00-10c48=R 10c80-10cb2=R 10cc0-10cf2=R 10cfa-10cff=R",
  "10d00-10d23=A 10d24-10d27=M 10d30-10d39=N 10e60-10e7e=N 10e80-10ea9=R 10eab-10eac=M 10ead=R",
  "10eb0-10eb1=R 10f00-10f27=R 10f30-10f45=A 10f46-10f50=M 10f51-10f59=A 10f70-10f81=R",
  "10f82-10f85=M 10f86-10f89=R 10fb0-10fcb=R 10fe0-10ff6=R 11001=M 11038-11046=M 11052-11065=S",
  "11070=M 11073-11074=M 1107f-11081=M 110b3-110b6=M 110b9-110ba=M 110c2=M 11100-11102=M",
  "11127-1112b=M 1112d-11134=M 11173=M 11180-11181=M 111b6-111be=M 111c9-111cc=M 111cf=M",
  "1122f-11231=M 11234=M 11236-11237=M 1123e=M 112df=M 112e3-112ea=M 11300-11301=M",
  "1133b-1133c=M 11340=M 11366-1136c=M 11370-11374=M 11438-1143f=M 11442-11444=M 11446=M",
  "1145e=M 114b3-114b8=M 114ba=M 114bf-114c0=M 114c2-114c3=M 115b2-115b5=M 115bc-115bd=M",
  "115bf-115c0=M 115dc-115dd=M 11633-1163a=M 1163d=M 1163f-11640=M 11660-1166c=S 116ab=M",
  "116ad=M 116b0-116b5=M 116b7=M 1171d-1171f=M 11722-11725=M 11727-1172b=M 1182f-11837=M",
  "11839-1183a=M 1193b-1193c=M 1193e=M 11943=M 119d4-119d7=M 119da-119db=M 119e0=M",
  "11a01-11a06=M 11a09-11a0a=M 11a33-11a38=M 11a3b-11a3e=M 11a47=M 11a51-11a56=M 11a59-11a5b=M",
  "11a8a-11a96=M 11a98-11a99=M 11c30-11c36=M 11c38-11c3d=M 11c92-11ca7=M 11caa-11cb0=M",
  "11cb2-11cb3=M 11cb5-11cb6=M 11d31-11d36=M 11d3a=M 11d3c-11d3d=M 11d3f-11d45=M 11d47=M",
  "11d90-11d91=M 11d95=M 11d97=M 11ef3-11ef4=M 11fd5-11ff1=S 16af0-16af4=M 16b30-16b36=M",
  "16f4f=M 16f8f-16f92=M 16fe2=S 16fe4=M 1bc9d-1bc9e=M 1bca0-1bca3=S 1cf00-1cf2d=M",
  "1cf30-1cf46=M 1d167-1d169=M 1d173-1d17a=S 1d17b-1d182=M 1d185-1d18b=M 1d1aa-1d1ad=M",
  "1d1e9-1d1ea=S 1d200-1d241=S 1d242-1d244=M 1d245=S 1d300-1d356=S 1d6db=S 1d715=S 1d74f=S",
  "1d789=S 1d7c3=S 1d7ce-1d7ff=E 1da00-1da36=M 1da3b-1da6c=M 1da75=M 1da84=M 1da9b-1da9f=M",
  "1daa1-1daaf=M 1e000-1e006=M 1e008-1e018=M 1e01b-1e021=M 1e023-1e024=M 1e026-1e02a=M",
  "1e130-1e136=M 1e2ae=M 1e2ec-1e2ef=M 1e2ff=S 1e800-1e8c4=R 1e8c7-1e8cf=R 1e8d0-1e8d6=M",
  "1e900-1e943=R 1e944-1e94a=M 1e94b=R 1e950-1e959=R 1e95e-1e95f=R 1ec71-1ecb4=A 1ed01-1ed3d=A",
  "1ee00-1ee03=A 1ee05-1ee1f=A 1ee21-1ee22=A 1ee24=A 1ee27=A 1ee29-1ee32=A 1ee34-1ee37=A",
  "1ee39=A 1ee3b=A 1ee42=A 1ee47=A 1ee49=A 1ee4b=A 1ee4d-1ee4f=A 1ee51-1ee52=A 1ee54=A 1ee57=A",
  "1ee59=A 1ee5b=A 1ee5d=A 1ee5f=A 1ee61-1ee62=A 1ee64=A 1ee67-1ee6a=A 1ee6c-1ee72=A",
  "1ee74-1ee77=A 1ee79-1ee7c=A 1ee7e=A 1ee80-1ee89=A 1ee8b-1ee9b=A 1eea1-1eea3=A 1eea5-1eea9=A",
  "1eeab-1eebb=A 1eef0-1eef1=S 1f000-1f02b=S 1f030-1f093=S 1f0a0-1f0ae=S 1f0b1-1f0bf=S",
  "1f0c1-1f0cf=S 1f0d1-1f0f5=S 1f100-1f10a=E 1f10b-1f10f=S 1f12f=S 1f16a-1f16f=S 1f1ad=S",
  "1f260-1f265=S 1f300-1f6d7=S 1f6dd-1f6ec=S 1f6f0-1f6fc=S 1f700-1f773=S 1f780-1f7d8=S",
  "1f7e0-1f7eb=S 1f7f0=S 1f800-1f80b=S 1f810-1f847=S 1f850-1f859=S 1f860-1f887=S 1f890-1f8ad=S",
  "1f8b0-1f8b1=S 1f900-1fa53=S 1fa60-1fa6d=S 1fa70-1fa74=S 1fa78-1fa7c=S 1fa80-1fa86=S",
  "1fa90-1faac=S 1fab0-1faba=S 1fac0-1fac5=S 1fad0-1fad9=S 1fae0-1fae7=S 1faf0-1faf6=S",
  "1fb00-1fb92=S 1fb94-1fbca=S 1fbf0-1fbf9=E e0001=S e0020-e007f=S e0100-e01ef=M"]

/-- The marks, that is, the general categories Mn, Mc and Me. -/
def marks : CodeTable := .ofLines [
  "300-36f 483-489 591-5bd 5bf 5c1-5c2 5c4-5c5 5c7 610-61a 64b-65f 670 6d6-6dc 6df-6e4 6e7-6e8",
  "6ea-6ed 711 730-74a 7a6-7b0 7eb-7f3 7fd 816-819 81b-823 825-827 829-82d 859-85b 898-89f",
  "8ca-8e1 8e3-903 93a-93c 93e-94f 951-957 962-963 981-983 9bc 9be-9c4 9c7-9c8 9cb-9cd 9d7",
  "9e2-9e3 9fe a01-a03 a3c a3e-a42 a47-a48 a4b-a4d a51 a70-a71 a75 a81-a83 abc abe-ac5 ac7-ac9",
  "acb-acd ae2-ae3 afa-aff b01-b03 b3c b3e-b44 b47-b48 b4b-b4d b55-b57 b62-b63 b82 bbe-bc2",
  "bc6-bc8 bca-bcd bd7 c00-c04 c3c c3e-c44 c46-c48 c4a-c4d c55-c56 c62-c63 c81-c83 cbc cbe-cc4",
  "cc6-cc8 cca-ccd cd5-cd6 ce2-ce3 d00-d03 d3b-d3c d3e-d44 d46-d48 d4a-d4d d57 d62-d63 d81-d83",
  "dca dcf-dd4 dd6 dd8-ddf df2-df3 e31 e34-e3a e47-e4e eb1 eb4-ebc ec8-ecd f18-f19 f35 f37 f39",
  "f3e-f3f f71-f84 f86-f87 f8d-f97 f99-fbc fc6 102b-103e 1056-1059 105e-1060 1062-1064",
  "1067-106d 1071-1074 1082-108d 108f 109a-109d 135d-135f 1712-1715 1732-1734 1752-1753",
  "1772-1773 17b4-17d3 17dd 180b-180d 180f 1885-1886 18a9 1920-192b 1930-193b 1a17-1a1b",
  "1a55-1a5e 1a60-1a7c 1a7f 1ab0-1ace 1b00-1b04 1b34-1b44 1b6b-1b73 1b80-1b82 1ba1-1bad",
  "1be6-1bf3 1c24-1c37 1cd0-1cd2 1cd4-1ce8 1ced 1cf4 1cf7-1cf9 1dc0-1dff 20d0-20f0 2cef-2cf1",
  "2d7f 2de0-2dff 302a-302f 3099-309a a66f-a672 a674-a67d a69e-a69f a6f0-a6f1 a802 a806 a80b",
  "a823-a827 a82c a880-a881 a8b4-a8c5 a8e0-a8f1 a8ff a926-a92d a947-a953 a980-a983 a9b3-a9c0",
  "a9e5 aa29-aa36 aa43 aa4c-aa4d aa7b-aa7d aab0 aab2-aab4 aab7-aab8 aabe-aabf aac1 aaeb-aaef",
  "aaf5-aaf6 abe3-abea abec-abed fb1e fe00-fe0f fe20-fe2f 101fd 102e0 10376-1037a 10a01-10a03",
  "10a05-10a06 10a0c-10a0f 10a38-10a3a 10a3f 10ae5-10ae6 10d24-10d27 10eab-10eac 10f46-10f50",
  "10f82-10f85 11000-11002 11038-11046 11070 11073-11074 1107f-11082 110b0-110ba 110c2",
  "11100-11102 11127-11134 11145-11146 11173 11180-11182 111b3-111c0 111c9-111cc 111ce-111cf",
  "1122c-11237 1123e 112df-112ea 11300-11303 1133b-1133c 1133e-11344 11347-11348 1134b-1134d",
  "11357 11362-11363 11366-1136c 11370-11374 11435-11446 1145e 114b0-114c3 115af-115b5",
  "115b8-115c0 115dc-115dd 11630-11640 116ab-116b7 1171d-1172b 1182c-1183a 11930-11935",
  "11937-11938 1193b-1193e 11940 11942-11943 119d1-119d7 119da-119e0 119e4 11a01-11a0a",
  "11a33-11a39 11a3b-11a3e 11a47 11a51-11a5b 11a8a-11a99 11c2f-11c36 11c38-11c3f 11c92-11ca7",
  "11ca9-11cb6 11d31-11d36 11d3a 11d3c-11d3d 11d3f-11d45 11d47 11d8a-11d8e 11d90-11d91",
  "11d93-11d97 11ef3-11ef6 16af0-16af4 16b30-16b36 16f4f 16f51-16f87 16f8f-16f92 16fe4",
  "16ff0-16ff1 1bc9d-1bc9e 1cf00-1cf2d 1cf30-1cf46 1d165-1d169 1d16d-1d172 1d17b-1d182",
  "1d185-1d18b 1d1aa-1d1ad 1d242-1d244 1da00-1da36 1da3b-1da6c 1da75 1da84 1da9b-1da9f",
  "1daa1-1daaf 1e000-1e006 1e008-1e018 1e01b-1e021 1e023-1e024 1e026-1e02a 1e130-1e136 1e2ae",
  "1e2ec-1e2ef 1e8d0-1e8d6 1e944-1e94a e0100-e01ef"]

namespace Direction

/-- The class of direction of a character. -/
def classOf (c : Char) : Char :=
  match directions.find? c.toNat with
  | some e => e.value.headD 'L'
  | none => 'L'

/-- Whether a label makes its whole domain name subject to the rule. -/
def isRightToLeft (label : List Char) : Bool :=
  label.any fun c => ['R', 'A', 'N'].contains (classOf c)

/-- Whether a label keeps its direction: it starts with a letter and holds only classes of that
letter's direction, it ends in a letter or digit apart from marks, and a right-to-left label does
not mix the two kinds of digits. -/
def allows (label : List Char) : Bool :=
  let classes := label.map classOf
  let bare := classes.reverse.dropWhile (· == 'M')
  match classes with
  | [] => true
  | first :: _ =>
    if first == 'R' || first == 'A' then
      classes.all (['R', 'A', 'N', 'E', 'S', 'M'].contains ·)
        && (match bare with
          | last :: _ => ['R', 'A', 'N', 'E'].contains last
          | [] => false)
        && !(classes.contains 'E' && classes.contains 'N')
    else if first == 'L' then
      classes.all (['L', 'E', 'S', 'M'].contains ·)
        && (match bare with
          | last :: _ => ['L', 'E'].contains last
          | [] => false)
    else false

end Direction

end IncludeTree.Unicode

import StubProxy.Text.RangeMap

/-!
# Writing direction in domain names

A name with a right-to-left character is a mixed name, and then each of its labels must read in one
direction only (`Label.hasOneDirection`).
-/

namespace StubProxy.Url.Domain

open Text

/-- What a character contributes to the direction of a text. -/
inductive Direction where
  | left
  | right
  | arabic
  | arabicNumber
  | number
  | numberSeparator
  | numberTerminator
  | commonSeparator
  | mark
  | boundary
  | neutral
  | other
  deriving DecidableEq

/-- A direction from its sign. -/
def Direction.read (s : List Char) : Direction :=
  match s.drop 1 with
  | ['R'] => .right
  | ['A'] => .arabic
  | ['N'] => .arabicNumber
  | ['E'] => .number
  | ['-'] => .numberSeparator
  | ['%'] => .numberTerminator
  | ['S'] => .commonSeparator
  | ['M'] => .mark
  | ['B'] => .boundary
  | ['O'] => .neutral
  | _ => .other

/-- The characters that do not simply read from left to right. -/
def directions : RangeMap Direction := RangeMap.ofText Direction.read
  "0-8=B 9-d=X e-1b=B 1c-20=X 21-22=O 23-25=% 26-2a=O 2b=- 2c=S 2d=- 2e-2f=S 30-39=E 3a=S
  3b-40=O 5b-60=O 7b-7e=O 7f=B a1=O a2-a5=% a6-a7=O a9=O ab-ac=O ae=O b0-b1=% b6-b7=O bb=O
  bf=O d7=O f7=O 2b9-2ba=O 2c2-2cf=O 2d2-2d7=O 2de-2df=O 2e5-2ed=O 2ef-2ff=O 300-33f=M 342=M
  346-34e=M 350-36f=M 375=O 3f6=O 483-489=M 58a=O 58d-58e=O 58f=% 591-5bd=M 5be=R 5bf=M 5c0=R
  5c1-5c2=M 5c3=R 5c4-5c5=M 5c6=R 5c7=M 5d0-5ea=R 5ef-5f4=R 606-607=O 608=A 609-60a=% 60b=A
  60c=S 60d=A 60e-60f=O 610-61a=M 61b=A 61d-64a=A 64b-65f=M 660-669=N 66a=% 66b-66c=N
  66d-66f=A 670=M 671-674=A 679-6d5=A 6d6-6dc=M 6de=O 6df-6e4=M 6e5-6e6=A 6e7-6e8=M 6e9=O
  6ea-6ed=M 6ee-6ef=A 6f0-6f9=E 6fa-70d=A 710=A 711=M 712-72f=A 730-74a=M 74d-7a5=A 7a6-7b0=M
  7b1=A 7c0-7ea=R 7eb-7f3=M 7f4-7f5=R 7f6-7f9=O 7fa=R 7fd=M 7fe-815=R 816-819=M 81a=R
  81b-823=M 824=R 825-827=M 828=R 829-82d=M 830-83e=R 840-858=R 859-85b=M 85e=R 860-86a=A
  870-88f=A 897-89f=M 8a0-8c9=A 8ca-8e1=M 8e3-902=M 93a=M 93c=M 941-948=M 94d=M 951-957=M
  962-963=M 981=M 9bc=M 9c1-9c4=M 9cd=M 9e2-9e3=M 9f2-9f3=% 9fb=% 9fe=M a01-a02=M a3c=M
  a41-a42=M a47-a48=M a4b-a4d=M a51=M a70-a71=M a75=M a81-a82=M abc=M ac1-ac5=M ac7-ac8=M
  acd=M ae2-ae3=M af1=% afa-aff=M b01=M b3c=M b3f=M b41-b44=M b4d=M b55-b56=M b62-b63=M b82=M
  bc0=M bcd=M bf3-bf8=O bf9=% bfa=O c00=M c04=M c3c=M c3e-c40=M c46-c48=M c4a-c4d=M c55-c56=M
  c62-c63=M c78-c7e=O c81=M cbc=M ccc-ccd=M ce2-ce3=M d00-d01=M d3b-d3c=M d41-d44=M d4d=M
  d62-d63=M d81=M dca=M dd2-dd4=M dd6=M e31=M e34-e3a=M e3f=% e47-e4e=M eb1=M eb4-ebc=M
  ec8-ece=M f18-f19=M f35=M f37=M f39=M f3a-f3d=O f71-f72=M f74=M f7a-f7e=M f80=M f82-f84=M
  f86-f87=M f8d-f92=M f94-f97=M f99-f9c=M f9e-fa1=M fa3-fa6=M fa8-fab=M fad-fb8=M fba-fbc=M
  fc6=M 102d-1030=M 1032-1037=M 1039-103a=M 103d-103e=M 1058-1059=M 105e-1060=M 1071-1074=M
  1082=M 1085-1086=M 108d=M 109d=M 135d-135f=M 1390-1399=O 1400=O 169b-169c=O 1712-1714=M
  1732-1733=M 1752-1753=M 1772-1773=M 17b7-17bd=M 17c6=M 17c9-17d3=M 17db=% 17dd=M 17f0-17f9=O
  1800-180a=O 1885-1886=M 18a9=M 1920-1922=M 1927-1928=M 1932=M 1939-193b=M 1940=O 1944-1945=O
  19de-19ff=O 1a17-1a18=M 1a1b=M 1a56=M 1a58-1a5e=M 1a60=M 1a62=M 1a65-1a6c=M 1a73-1a7c=M
  1a7f=M 1ab0-1add=M 1ae0-1aeb=M 1b00-1b03=M 1b34=M 1b36-1b3a=M 1b3c=M 1b42=M 1b6b-1b73=M
  1b80-1b81=M 1ba2-1ba5=M 1ba8-1ba9=M 1bab-1bad=M 1be6=M 1be8-1be9=M 1bed=M 1bef-1bf1=M
  1c2c-1c33=M 1c36-1c37=M 1cd0-1cd2=M 1cd4-1ce0=M 1ce2-1ce8=M 1ced=M 1cf4=M 1cf8-1cf9=M
  1dc0-1dff=M 200c-200d=B 2010=O 2012-2016=O 2018-2023=O 2027=O 2030-2032=% 2035=O 2038-203b=O
  203d=O 203f-2043=O 2044=S 2045-2046=O 204a-2056=O 2058-205e=O 20a0-20a7=% 20a9-20c0=% 20c1=O
  20d0-20f0=M 2104=O 2108=O 2114=O 2117-2118=O 211e-211f=O 2123=O 2125=O 2127=O 2129=O 212e=%
  213a=O 2141-2144=O 214a-214d=O 218a-218b=O 2190-2211=O 2212=- 2213=% 2214-222b=O 222e=O
  2231-2328=O 232b-2335=O 237b-2394=O 2396-2429=O 2440-244a=O 24eb-26ab=O 26ad-27ff=O
  2900-2a0b=O 2a0d-2a73=O 2a77-2adb=O 2add-2b73=O 2b76-2bff=O 2ce5-2cea=O 2cef-2cf1=M
  2cf9-2cff=O 2d7f=M 2de0-2dff=M 2e00-2e5d=O 2e80-2e99=O 2e9b-2e9e=O 2ea0-2ef2=O 3001=O
  3003-3004=O 3008-3020=O 302a-302d=M 3030=O 3037=O 303d-303f=O 3099-309a=M 30a0=O 30fb=O
  31c0-31e5=O 4dc0-4dff=O a490-a4c6=O a60d-a60f=O a66f-a672=M a673=O a674-a67d=M a67e-a67f=O
  a69e-a69f=M a6f0-a6f1=M a700-a721=O a788=O a802=M a806=M a80b=M a825-a826=M a828-a82b=O
  a82c=M a838-a839=% a874-a877=O a8c4-a8c5=M a8e0-a8f1=M a8ff=M a926-a92d=M a947-a951=M
  a980-a982=M a9b3=M a9b6-a9b9=M a9bc-a9bd=M a9e5=M aa29-aa2e=M aa31-aa32=M aa35-aa36=M aa43=M
  aa4c=M aa7c=M aab0=M aab2-aab4=M aab7-aab8=M aabe-aabf=M aac1=M aaec-aaed=M aaf6=M
  ab6a-ab6b=O abe5=M abe8=M abed=M fb1e=M fbb2-fbc2=A fbc3-fbd2=O fd3e-fd4f=O fd90-fd91=O
  fdc8-fdcf=O fdfd-fdff=O fe20-fe2f=M fe45-fe46=O fe73=A 10101=O 10140-1018c=O 10190-1019c=O
  101a0=O 101fd=M 102e0=M 102e1-102fb=E 10376-1037a=M 10800-10805=R 10808=R 1080a-10835=R
  10837-10838=R 1083c=R 1083f-10855=R 10857-1089e=R 108a7-108af=R 108e0-108f2=R 108f4-108f5=R
  108fb-1091b=R 1091f=O 10920-10939=R 1093f-10959=R 10980-109b7=R 109bc-109cf=R 109d2-10a00=R
  10a01-10a03=M 10a05-10a06=M 10a0c-10a0f=M 10a10-10a13=R 10a15-10a17=R 10a19-10a35=R
  10a38-10a3a=M 10a3f=M 10a40-10a48=R 10a50-10a58=R 10a60-10a9f=R 10ac0-10ae4=R 10ae5-10ae6=M
  10aeb-10af6=R 10b00-10b35=R 10b39-10b3f=O 10b40-10b55=R 10b58-10b72=R 10b78-10b91=R
  10b99-10b9c=R 10ba9-10baf=R 10c00-10c48=R 10cc0-10cf2=R 10cfa-10cff=R 10d00-10d23=A
  10d24-10d27=M 10d30-10d39=N 10d40-10d4f=R 10d69-10d6d=M 10d6e-10d85=R 10d8e-10d8f=R
  10e60-10e7e=N 10e80-10ea9=R 10eab-10eac=M 10ead=R 10eb0-10eb1=R 10ec2-10ec7=A 10ed0-10ed8=A
  10efa-10eff=M 10f00-10f27=R 10f30-10f45=A 10f46-10f50=M 10f51-10f59=A 10f70-10f81=R
  10f82-10f85=M 10f86-10f89=R 10fb0-10fcb=R 10fe0-10ff6=R 11001=M 11038-11046=M 11052-11065=O
  11070=M 11073-11074=M 1107f-11081=M 110b3-110b6=M 110b9-110ba=M 110c2=M 11100-11102=M
  11127-1112b=M 1112d-11134=M 11173=M 11180-11181=M 111b6-111be=M 111c9-111cc=M 111cf=M
  1122f-11231=M 11234=M 11236-11237=M 1123e=M 11241=M 112df=M 112e3-112ea=M 11300-11301=M
  1133b-1133c=M 11340=M 11366-1136c=M 11370-11374=M 113bb-113c0=M 113ce=M 113d0=M 113d2=M
  113e1-113e2=M 11438-1143f=M 11442-11444=M 11446=M 1145e=M 114b3-114b8=M 114ba=M
  114bf-114c0=M 114c2-114c3=M 115b2-115b5=M 115bc-115bd=M 115bf-115c0=M 115dc-115dd=M
  11633-1163a=M 1163d=M 1163f-11640=M 11660-1166c=O 116ab=M 116ad=M 116b0-116b5=M 116b7=M
  1171d-1171f=M 11722-11725=M 11727-1172b=M 1182f-11837=M 11839-1183a=M 1193b-1193c=M 1193e=M
  11943=M 119d4-119d7=M 119da-119db=M 119e0=M 11a01-11a06=M 11a09-11a0a=M 11a33-11a38=M
  11a3b-11a3e=M 11a47=M 11a51-11a56=M 11a59-11a5b=M 11a8a-11a96=M 11a98-11a99=M 11b60=M
  11b62-11b64=M 11b66=M 11c30-11c36=M 11c38-11c3d=M 11c92-11ca7=M 11caa-11cb0=M 11cb2-11cb3=M
  11cb5-11cb6=M 11d31-11d36=M 11d3a=M 11d3c-11d3d=M 11d3f-11d45=M 11d47=M 11d90-11d91=M
  11d95=M 11d97=M 11ef3-11ef4=M 11f00-11f01=M 11f36-11f3a=M 11f40=M 11f42=M 11f5a=M
  11fd5-11fdc=O 11fdd-11fe0=% 11fe1-11ff1=O 13440=M 13447-13455=M 1611e-16129=M 1612d-1612f=M
  16af0-16af4=M 16b30-16b36=M 16f4f=M 16f8f-16f92=M 16fe2=O 16fe4=M 1bc9d-1bc9e=M
  1cc00-1ccd5=O 1ccfa-1ccfc=O 1cd00-1ceb3=O 1ceba-1ced0=O 1cee0-1cef0=O 1cf00-1cf2d=M
  1cf30-1cf46=M 1d167-1d169=M 1d17b-1d182=M 1d185-1d18b=M 1d1aa-1d1ad=M 1d1e9-1d1ea=O
  1d200-1d241=O 1d242-1d244=M 1d245=O 1d300-1d356=O 1da00-1da36=M 1da3b-1da6c=M 1da75=M
  1da84=M 1da9b-1da9f=M 1daa1-1daaf=M 1e000-1e006=M 1e008-1e018=M 1e01b-1e021=M 1e023-1e024=M
  1e026-1e02a=M 1e08f=M 1e130-1e136=M 1e2ae=M 1e2ec-1e2ef=M 1e2ff=% 1e4ec-1e4ef=M
  1e5ee-1e5ef=M 1e6e3=M 1e6e6=M 1e6ee-1e6ef=M 1e6f5=M 1e800-1e8c4=R 1e8c7-1e8cf=R
  1e8d0-1e8d6=M 1e922-1e943=R 1e944-1e94a=M 1e94b=R 1e950-1e959=R 1e95e-1e95f=R 1ec71-1ecb4=A
  1ed01-1ed3d=A 1eef0-1eef1=O 1f000-1f02b=O 1f030-1f093=O 1f0a0-1f0ae=O 1f0b1-1f0bf=O
  1f0c1-1f0cf=O 1f0d1-1f0f5=O 1f10b-1f10f=O 1f12f=O 1f16d-1f16f=O 1f1ad=O 1f260-1f265=O
  1f300-1f6d8=O 1f6dc-1f6ec=O 1f6f0-1f6fc=O 1f700-1f7d9=O 1f7e0-1f7eb=O 1f7f0=O 1f800-1f80b=O
  1f810-1f847=O 1f850-1f859=O 1f860-1f887=O 1f890-1f8ad=O 1f8b0-1f8bb=O 1f8c0-1f8c1=O
  1f8d0-1f8d8=O 1f900-1fa57=O 1fa60-1fa6d=O 1fa70-1fa7c=O 1fa80-1fa8a=O 1fa8e-1fac6=O 1fac8=O
  1facd-1fadc=O 1fadf-1faea=O 1faef-1faf8=O 1fb00-1fb92=O 1fb94-1fbef=O 1fbfa=O"

/-- The direction of a character. -/
def direction (c : Char) : Direction := (directions.find? c.toNat).getD .left

/-- Whether the character makes a name mixed. -/
def isRightToLeft (c : Char) : Bool :=
  direction c = .right || direction c = .arabic || direction c = .arabicNumber

/-- What either direction admits inside a label. -/
def isWeak (d : Direction) : Bool :=
  d = .number || d = .numberSeparator || d = .commonSeparator || d = .numberTerminator
    || d = .neutral || d = .boundary || d = .mark

/--
The rule for labels of mixed names. The first character decides the direction, all others must be
of it or weak, the last one that is no mark must be a letter or digit of it, and a right-to-left
label has digits of one kind only.
-/
def hasOneDirection (label : List Char) : Bool :=
  let ds := label.map direction
  let last := (ds.reverse.dropWhile (· = .mark)).head?
  match ds.head? with
  | none => true
  | some .left =>
    ds.all (fun d => d = .left || isWeak d) && (last = some .left || last = some .number)
  | some d =>
    (d = .right || d = .arabic)
      && ds.all (fun d => d = .right || d = .arabic || d = .arabicNumber || isWeak d)
      && (last = some .right || last = some .arabic || last = some .number
        || last = some .arabicNumber)
      && !(ds.contains .number && ds.contains .arabicNumber)

end StubProxy.Url.Domain

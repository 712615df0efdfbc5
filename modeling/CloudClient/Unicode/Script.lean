import CloudClient.Unicode.Runs

/-!
# Directions, joining and marks

What the rules for labels of domain names ask about characters: in which direction they are written,
whether they join with their neighbours, and whether they are marks on the letter before. All of it
is for the characters that domain names are compared in.
-/

namespace CloudClient.Unicode

/-- The direction in which a character is written, and its part in the direction of a line. -/
inductive Direction where
  /-- from the left to the right -/
  | left
  /-- from the right to the left -/
  | right
  /-- from the right to the left, with the letters of Arabic -/
  | arabic
  /-- a digit as Arabic has them -/
  | arabicDigit
  /-- a digit as Europe has them -/
  | digit
  /-- a sign of a number -/
  | sign
  /-- a separator within numbers -/
  | separator
  /-- what ends a number -/
  | terminator
  /-- neutral -/
  | neutral
  /-- without any part in it -/
  | boundary
  /-- a mark on the character before -/
  | mark
  /-- anything else -/
  | other
  deriving DecidableEq

/-- The direction that a letter of the table names. -/
def Direction.ofLetter : Char → Direction
  | 'R' => right
  | 'A' => arabic
  | 'N' => arabicDigit
  | 'E' => digit
  | 'S' => sign
  | 'C' => separator
  | 'T' => terminator
  | 'O' => neutral
  | 'B' => boundary
  | 'M' => mark
  | _ => other

/-- The directions of the characters that are not written from the left to the right. -/
@[irreducible] def directions : List Run := Run.read
  ["0-8:B 9:X a:X b:X c:X d:X e-1b:B 1c:X 1d:X 1e:X 1f:X 20:X 21-22:O 23-25:T 26-2a:O 2b:S 2c:C",
  "2d:S 2e-2f:C 30-39:E 3a:C 3b-60:O 7b-7e:O 7f:B a1:O a2-a5:T a6-ae:O b0-b1:T b6-d7:O f7:O",
  "2b9-2ba:O 2c2-2cf:O 2d2-2ed:O 2ef-2ff:O 300-36f:M 375:O 3f6:O 483-489:M 58a-58e:O 58f:T",
  "591-5bd:M 5be:R 5bf:M 5c0:R 5c1-5c2:M 5c3:R 5c4-5c5:M 5c6:R 5c7:M 5d0-5f4:R 606-607:O 608:A",
  "609-60a:T 60b:A 60c:C 60d:A 60e-60f:O 610-61a:M 61b-64a:A 64b-65f:M 660-669:N 66a:T",
  "66b-66c:N 66d-66f:A 670:M 671-6d5:A 6d6-6dc:M 6de:O 6df-6e4:M 6e5-6e6:A 6e7-6e8:M 6e9:O",
  "6ea-6ed:M 6ee-6ef:A 6f0-6f9:E 6fa-710:A 711:M 712-72f:A 730-74a:M 74d-7a5:A 7a6-7b0:M 7b1:A",
  "7c0-7ea:R 7eb-7f3:M 7f4-7f5:R 7f6-7f9:O 7fa:R 7fd:M 7fe-815:R 816-819:M 81a:R 81b-823:M",
  "824:R 825-827:M 828:R 829-82d:M 830-858:R 859-85b:M 85e:R 860-88f:A 897-89f:M 8a0-8c9:A",
  "8ca-902:M 93a:M 93c:M 941-948:M 94d:M 951-957:M 962-963:M 981:M 9bc:M 9c1-9c4:M 9cd:M",
  "9e2-9e3:M 9f2-9f3:T 9fb:T 9fe-a02:M a3c:M a41-a51:M a70-a71:M a75:M a81-a82:M abc:M",
  "ac1-ac8:M acd:M ae2-ae3:M af1:T afa-b01:M b3c:M b3f:M b41-b44:M b4d-b56:M b62-b63:M b82:M",
  "bc0:M bcd:M bf3-bf8:O bf9:T bfa:O c00:M c04:M c3c:M c3e-c40:M c46-c56:M c62-c63:M c78-c7e:O",
  "c81:M cbc:M cbf:M cc6:M ccc-ccd:M ce2-ce3:M d00-d01:M d3b-d3c:M d41-d44:M d4d:M d62-d63:M",
  "d81:M dca:M dd2-dd6:M e31:M e34-e3a:M e3f:T e47-e4e:M eb1:M eb4-ebc:M ec8-ece:M f18-f19:M",
  "f35:M f37:M f39:M f3a-f3d:O f71-f7e:M f80-f84:M f86-f87:M f8d-fbc:M fc6:M 102d-1030:M",
  "1032-1037:M 1039-103a:M 103d-103e:M 1058-1059:M 105e-1060:M 1071-1074:M 1082:M 1085-1086:M",
  "108d:M 109d:M 135d-135f:M 1390-1399:O 1400:O 169b-169c:O 1712-1714:M 1732-1733:M 1752-1753:M",
  "1772-1773:M 17b7-17bd:M 17c6:M 17c9-17d3:M 17db:T 17dd:M 17f0-180a:O 1885-1886:M 18a9:M",
  "1920-1922:M 1927-1928:M 1932:M 1939-193b:M 1940-1945:O 19de-19ff:O 1a17-1a18:M 1a1b:M 1a56:M",
  "1a58-1a60:M 1a62:M 1a65-1a6c:M 1a73-1a7f:M 1ab0-1b03:M 1b34:M 1b36-1b3a:M 1b3c:M 1b42:M",
  "1b6b-1b73:M 1b80-1b81:M 1ba2-1ba5:M 1ba8-1ba9:M 1bab-1bad:M 1be6:M 1be8-1be9:M 1bed:M",
  "1bef-1bf1:M 1c2c-1c33:M 1c36-1c37:M 1cd0-1cd2:M 1cd4-1ce0:M 1ce2-1ce8:M 1ced:M 1cf4:M",
  "1cf8-1cf9:M 1dc0-1dff:M 200c-200d:B 2010-2027:O 2030-2032:T 2035-2043:O 2044:C 2045-205e:O",
  "20a0-20c1:T 20d0-20f0:M 2104-2129:O 212e:T 213a-214d:O 218a-2211:O 2212:S 2213:T 2214-2335:O",
  "237b-2394:O 2396-2426:O 2440-26ab:O 26ad-27ff:O 2900-2b95:O 2b97-2bff:O 2ce5-2cea:O",
  "2cef-2cf1:M 2cf9-2cff:O 2d7f:M 2de0-2dff:M 2e00-3004:O 3008-3020:O 302a-302d:M 3030:O 3037:O",
  "303d-303f:O 3099-309a:M 30a0:O 30fb:O 31c0-31e3:O 4dc0-4dff:O a490-a4c6:O a60d-a60f:O",
  "a66f-a672:M a673:O a674-a67d:M a67e-a67f:O a69e-a69f:M a6f0-a6f1:M a700-a721:O a788:O a802:M",
  "a806:M a80b:M a825-a826:M a828-a82b:O a82c:M a838-a839:T a874-a877:O a8c4-a8c5:M a8e0-a8f1:M",
  "a8ff:M a926-a92d:M a947-a951:M a980-a982:M a9b3:M a9b6-a9b9:M a9bc-a9bd:M a9e5:M aa29-aa2e:M",
  "aa31-aa32:M aa35-aa36:M aa43:M aa4c:M aa7c:M aab0:M aab2-aab4:M aab7-aab8:M aabe-aabf:M",
  "aac1:M aaec-aaed:M aaf6:M ab6a-ab6b:O abe5:M abe8:M abed:M fb1e:M fbb2-fbd2:A fd3e-fd4f:O",
  "fd90-fdce:A fdcf-fdff:O fe20-fe2f:M fe45-fe46:O fe73:A 10101:O 10140-1018c:O 10190-101a0:O",
  "101fd:M 102e0:M 102e1-102fb:E 10376-1037a:M 10800-1091b:R 1091f:O 10920-10a00:R",
  "10a01-10a0f:M 10a10-10a35:R 10a38-10a3f:M 10a40-10ae4:R 10ae5-10ae6:M 10aeb-10b35:R",
  "10b39-10b3f:O 10b40-10cff:R 10d00-10d23:A 10d24-10d27:M 10d30-10d39:N 10d40-10d4f:R",
  "10d69-10d6d:M 10d6e-10d8f:R 10e60-10e7e:N 10e80-10ea9:R 10eab-10eac:M 10ead-10eb1:R",
  "10ec2-10ed8:A 10efa-10eff:M 10f00-10f27:R 10f30-10f45:A 10f46-10f50:M 10f51-10f59:A",
  "10f70-10f81:R 10f82-10f85:M 10f86-10ff6:R 11001:M 11038-11046:M 11052-11065:O 11070:M",
  "11073-11074:M 1107f-11081:M 110b3-110b6:M 110b9-110ba:M 110c2:M 11100-11102:M 11127-1112b:M",
  "1112d-11134:M 11173:M 11180-11181:M 111b6-111be:M 111c9-111cc:M 111cf:M 1122f-11231:M",
  "11234:M 11236-11237:M 1123e:M 11241:M 112df:M 112e3-112ea:M 11300-11301:M 1133b-1133c:M",
  "11340:M 11366-11374:M 113bb-113c0:M 113ce:M 113d0:M 113d2:M 113e1-113e2:M 11438-1143f:M",
  "11442-11444:M 11446:M 1145e:M 114b3-114b8:M 114ba:M 114bf-114c0:M 114c2-114c3:M",
  "115b2-115b5:M 115bc-115bd:M 115bf-115c0:M 115dc-115dd:M 11633-1163a:M 1163d:M 1163f-11640:M",
  "11660-1166c:O 116ab:M 116ad:M 116b0-116b5:M 116b7:M 1171d-1171f:M 11722-11725:M",
  "11727-1172b:M 1182f-11837:M 11839-1183a:M 1193b-1193c:M 1193e:M 11943:M 119d4-119db:M",
  "119e0:M 11a01-11a0a:M 11a33-11a38:M 11a3b-11a3e:M 11a47:M 11a51-11a56:M 11a59-11a5b:M",
  "11a8a-11a96:M 11a98-11a99:M 11b60:M 11b62-11b64:M 11b66:M 11c30-11c3d:M 11c3f:M",
  "11c92-11ca7:M 11caa-11cb0:M 11cb2-11cb3:M 11cb5-11cb6:M 11d31-11d45:M 11d47:M 11d90-11d91:M",
  "11d95:M 11d97:M 11ef3-11ef4:M 11f00-11f01:M 11f36-11f3a:M 11f40:M 11f42:M 11f5a:M",
  "11fd5-11fdc:O 11fdd-11fe0:T 11fe1-11ff1:O 13440:M 13447-13455:M 1611e-16129:M 1612d-1612f:M",
  "16af0-16af4:M 16b30-16b36:M 16f4f:M 16f8f-16f92:M 16fe2:O 16fe4:M 1bc9d-1bc9e:M",
  "1cf00-1cf46:M 1d167-1d169:M 1d17b-1d182:M 1d185-1d18b:M 1d1aa-1d1ad:M 1d1e9-1d241:O",
  "1d242-1d244:M 1d245:O 1d300-1d356:O 1da00-1da36:M 1da3b-1da6c:M 1da75:M 1da84:M",
  "1da9b-1daaf:M 1e000-1e08f:M 1e130-1e136:M 1e2ae:M 1e2ec-1e2ef:M 1e2ff:T 1e4ec-1e4ef:M",
  "1e5ee-1e5ef:M 1e6e3:M 1e6e6:M 1e6ee-1e6ef:M 1e6f5:M 1e800-1e8cf:R 1e8d0-1e8d6:M",
  "1e922-1e943:R 1e944-1e94a:M 1e94b-1e95f:R 1ec71-1ed3d:A 1eef0-1f12f:O 1f16d-1f16f:O 1f1ad:O",
  "1f260-1f6d7:O 1f6dc-1f776:O 1f77b-1f8b1:O 1f900-1fa53:O 1fa60-1fa88:O 1fa90-1fabd:O",
  "1fabf-1fac5:O 1face-1fadb:O 1fae0-1fae8:O 1faf0-1fbca:O"]

/-- The direction of a character. -/
def direction (c : Char) : Direction :=
  match Run.find? directions c with
  | some r => Direction.ofLetter (r.value.headD ' ')
  | none => .left

/-- How a character joins with its neighbours. -/
inductive Joining where
  /-- on both sides -/
  | dual
  /-- with the one before -/
  | right
  /-- with the one after -/
  | left
  /-- joins its neighbours with each other -/
  | transparent
  /-- not at all -/
  | none
  deriving DecidableEq

/-- The joining that a letter of the table names. -/
def Joining.ofLetter : Char → Joining
  | 'D' => dual
  | 'R' => right
  | 'L' => left
  | 'T' => transparent
  | _ => none

/-- The characters that join. -/
@[irreducible] def joinings : List Run := Run.read
  ["300-36f:T 483-489:T 591-5bd:T 5bf:T 5c1-5c2:T 5c4-5c5:T 5c7:T 610-61a:T 620:D 622-625:R",
  "626:D 627:R 628:D 629:R 62a-62e:D 62f-632:R 633-63f:D 640:C 641-647:D 648:R 649-64a:D",
  "64b-65f:T 66e-66f:D 670:T 671-673:R 679-687:D 688-699:R 69a-6bf:D 6c0:R 6c1-6c2:D 6c3-6cb:R",
  "6cc:D 6cd:R 6ce:D 6cf:R 6d0-6d1:D 6d2-6d3:R 6d5:R 6d6-6dc:T 6df-6e4:T 6e7-6e8:T 6ea-6ed:T",
  "6ee-6ef:R 6fa-6fc:D 6ff:D 710:R 711:T 712-714:D 715-719:R 71a-71d:D 71e:R 71f-727:D 728:R",
  "729:D 72a:R 72b:D 72c:R 72d-72e:D 72f:R 730-74a:T 74d:R 74e-758:D 759-75b:R 75c-76a:D",
  "76b-76c:R 76d-770:D 771:R 772:D 773-774:R 775-777:D 778-779:R 77a-77f:D 7a6-7b0:T 7ca-7ea:D",
  "7eb-7f3:T 7fa:C 7fd:T 816-819:T 81b-823:T 825-827:T 829-82d:T 840:R 841-845:D 846-847:R",
  "848:D 849:R 84a-853:D 854:R 855:D 856-858:R 859-85b:T 860:D 862-865:D 867:R 868:D 869-882:R",
  "883-885:C 886:D 889-88d:D 88e:R 88f:D 897-89f:T 8a0-8a9:D 8aa-8ac:R 8ae:R 8af-8b0:D",
  "8b1-8b2:R 8b3-8b8:D 8b9:R 8ba-8c8:D 8ca-902:T 93a:T 93c:T 941-948:T 94d:T 951-957:T",
  "962-963:T 981:T 9bc:T 9c1-9c4:T 9cd:T 9e2-9e3:T 9fe-a02:T a3c:T a41-a51:T a70-a71:T a75:T",
  "a81-a82:T abc:T ac1-ac8:T acd:T ae2-ae3:T afa-b01:T b3c:T b3f:T b41-b44:T b4d-b56:T",
  "b62-b63:T b82:T bc0:T bcd:T c00:T c04:T c3c:T c3e-c40:T c46-c56:T c62-c63:T c81:T cbc:T",
  "cbf:T cc6:T ccc-ccd:T ce2-ce3:T d00-d01:T d3b-d3c:T d41-d44:T d4d:T d62-d63:T d81:T dca:T",
  "dd2-dd6:T e31:T e34-e3a:T e47-e4e:T eb1:T eb4-ebc:T ec8-ece:T f18-f19:T f35:T f37:T f39:T",
  "f71-f7e:T f80-f84:T f86-f87:T f8d-fbc:T fc6:T 102d-1030:T 1032-1037:T 1039-103a:T",
  "103d-103e:T 1058-1059:T 105e-1060:T 1071-1074:T 1082:T 1085-1086:T 108d:T 109d:T 135d-135f:T",
  "1712-1714:T 1732-1733:T 1752-1753:T 1772-1773:T 17b7-17bd:T 17c6:T 17c9-17d3:T 17dd:T 1807:D",
  "180a:C 1820-1878:D 1885-1886:T 1887-18a8:D 18a9:T 18aa:D 1920-1922:T 1927-1928:T 1932:T",
  "1939-193b:T 1a17-1a18:T 1a1b:T 1a56:T 1a58-1a60:T 1a62:T 1a65-1a6c:T 1a73-1a7f:T 1ab0-1b03:T",
  "1b34:T 1b36-1b3a:T 1b3c:T 1b42:T 1b6b-1b73:T 1b80-1b81:T 1ba2-1ba5:T 1ba8-1ba9:T 1bab-1bad:T",
  "1be6:T 1be8-1be9:T 1bed:T 1bef-1bf1:T 1c2c-1c33:T 1c36-1c37:T 1cd0-1cd2:T 1cd4-1ce0:T",
  "1ce2-1ce8:T 1ced:T 1cf4:T 1cf8-1cf9:T 1dc0-1dff:T 200d:C 20d0-20f0:T 2cef-2cf1:T 2d7f:T",
  "2de0-2dff:T 302a-302d:T 3099-309a:T a66f-a672:T a674-a67d:T a69e-a69f:T a6f0-a6f1:T a802:T",
  "a806:T a80b:T a825-a826:T a82c:T a840-a871:D a872:L a8c4-a8c5:T a8e0-a8f1:T a8ff:T",
  "a926-a92d:T a947-a951:T a980-a982:T a9b3:T a9b6-a9b9:T a9bc-a9bd:T a9e5:T aa29-aa2e:T",
  "aa31-aa32:T aa35-aa36:T aa43:T aa4c:T aa7c:T aab0:T aab2-aab4:T aab7-aab8:T aabe-aabf:T",
  "aac1:T aaec-aaed:T aaf6:T abe5:T abe8:T abed:T fb1e:T fe20-fe2f:T 101fd:T 102e0:T",
  "10376-1037a:T 10a01-10a0f:T 10a38-10a3f:T 10ac0-10ac4:D 10ac5:R 10ac7:R 10ac9-10aca:R",
  "10acd:L 10ace-10ad2:R 10ad3-10ad6:D 10ad7:L 10ad8-10adc:D 10add:R 10ade-10ae0:D 10ae1:R",
  "10ae4:R 10ae5-10ae6:T 10aeb-10aee:D 10aef:R 10b80:D 10b81:R 10b82:D 10b83-10b85:R",
  "10b86-10b88:D 10b89:R 10b8a-10b8b:D 10b8c:R 10b8d:D 10b8e-10b8f:R 10b90:D 10b91:R",
  "10ba9-10bac:R 10bad-10bae:D 10d00:L 10d01-10d21:D 10d22:R 10d23:D 10d24-10d27:T",
  "10d69-10d6d:T 10eab-10eac:T 10ec2:R 10ec3-10ec4:D 10ec6-10ec7:D 10efa-10eff:T 10f30-10f32:D",
  "10f33:R 10f34-10f44:D 10f46-10f50:T 10f51-10f53:D 10f54:R 10f70-10f73:D 10f74-10f75:R",
  "10f76-10f81:D 10f82-10f85:T 10fb0:D 10fb2-10fb3:D 10fb4-10fb6:R 10fb8:D 10fb9-10fba:R",
  "10fbb-10fbc:D 10fbd:R 10fbe-10fbf:D 10fc1:D 10fc2-10fc3:R 10fc4:D 10fc9:R 10fca:D 10fcb:L",
  "11001:T 11038-11046:T 11070:T 11073-11074:T 1107f-11081:T 110b3-110b6:T 110b9-110ba:T",
  "110c2:T 11100-11102:T 11127-1112b:T 1112d-11134:T 11173:T 11180-11181:T 111b6-111be:T",
  "111c9-111cc:T 111cf:T 1122f-11231:T 11234:T 11236-11237:T 1123e:T 11241:T 112df:T",
  "112e3-112ea:T 11300-11301:T 1133b-1133c:T 11340:T 11366-11374:T 113bb-113c0:T 113ce:T",
  "113d0:T 113d2:T 113e1-113e2:T 11438-1143f:T 11442-11444:T 11446:T 1145e:T 114b3-114b8:T",
  "114ba:T 114bf-114c0:T 114c2-114c3:T 115b2-115b5:T 115bc-115bd:T 115bf-115c0:T 115dc-115dd:T",
  "11633-1163a:T 1163d:T 1163f-11640:T 116ab:T 116ad:T 116b0-116b5:T 116b7:T 1171d:T 1171f:T",
  "11722-11725:T 11727-1172b:T 1182f-11837:T 11839-1183a:T 1193b-1193c:T 1193e:T 11943:T",
  "119d4-119db:T 119e0:T 11a01-11a0a:T 11a33-11a38:T 11a3b-11a3e:T 11a47:T 11a51-11a56:T",
  "11a59-11a5b:T 11a8a-11a96:T 11a98-11a99:T 11b60:T 11b62-11b64:T 11b66:T 11c30-11c3d:T",
  "11c3f:T 11c92-11ca7:T 11caa-11cb0:T 11cb2-11cb3:T 11cb5-11cb6:T 11d31-11d45:T 11d47:T",
  "11d90-11d91:T 11d95:T 11d97:T 11ef3-11ef4:T 11f00-11f01:T 11f36-11f3a:T 11f40:T 11f42:T",
  "11f5a:T 13440:T 13447-13455:T 1611e-16129:T 1612d-1612f:T 16af0-16af4:T 16b30-16b36:T",
  "16f4f:T 16f8f-16f92:T 16fe4:T 1bc9d-1bc9e:T 1cf00-1cf46:T 1d167-1d169:T 1d17b-1d182:T",
  "1d185-1d18b:T 1d1aa-1d1ad:T 1d242-1d244:T 1da00-1da36:T 1da3b-1da6c:T 1da75:T 1da84:T",
  "1da9b-1daaf:T 1e000-1e08f:T 1e130-1e136:T 1e2ae:T 1e2ec-1e2ef:T 1e4ec-1e4ef:T 1e5ee-1e5ef:T",
  "1e6e3:T 1e6e6:T 1e6ee-1e6ef:T 1e6f5:T 1e8d0-1e8d6:T 1e922-1e943:D 1e944-1e94b:T"]

/-- How a character joins. -/
def joining (c : Char) : Joining :=
  match Run.find? joinings c with
  | some r => Joining.ofLetter (r.value.headD ' ')
  | none => .none

/-- The marks on the character before. -/
@[irreducible] def marks : List Run := Run.read
  ["300-36f 483-489 591-5bd 5bf 5c1-5c2 5c4-5c5 5c7 610-61a 64b-65f 670 6d6-6dc 6df-6e4 6e7-6e8",
  "6ea-6ed 711 730-74a 7a6-7b0 7eb-7f3 7fd 816-819 81b-823 825-827 829-82d 859-85b 897-89f",
  "8ca-903 93a-93c 93e-94f 951-957 962-963 981-983 9bc 9be-9cd 9d7 9e2-9e3 9fe-a03 a3c-a51",
  "a70-a71 a75 a81-a83 abc abe-acd ae2-ae3 afa-b03 b3c b3e-b57 b62-b63 b82 bbe-bcd bd7 c00-c04",
  "c3c c3e-c56 c62-c63 c81-c83 cbc cbe-cd6 ce2-ce3 cf3-d03 d3b-d3c d3e-d4d d57 d62-d63 d81-d83",
  "dca-ddf df2-df3 e31 e34-e3a e47-e4e eb1 eb4-ebc ec8-ece f18-f19 f35 f37 f39 f3e-f3f f71-f84",
  "f86-f87 f8d-fbc fc6 102b-103e 1056-1059 105e-1060 1062-1064 1067-106d 1071-1074 1082-108d",
  "108f 109a-109d 135d-135f 1712-1715 1732-1734 1752-1753 1772-1773 17b6-17d3 17dd 1885-1886",
  "18a9 1920-193b 1a17-1a1b 1a55-1a7f 1ab0-1b04 1b34-1b44 1b6b-1b73 1b80-1b82 1ba1-1bad",
  "1be6-1bf3 1c24-1c37 1cd0-1cd2 1cd4-1ce8 1ced 1cf4 1cf7-1cf9 1dc0-1dff 20d0-20f0 2cef-2cf1",
  "2d7f 2de0-2dff 302a-302f 3099-309a a66f-a672 a674-a67d a69e-a69f a6f0-a6f1 a802 a806 a80b",
  "a823-a827 a82c a880-a881 a8b4-a8c5 a8e0-a8f1 a8ff a926-a92d a947-a953 a980-a983 a9b3-a9c0",
  "a9e5 aa29-aa36 aa43 aa4c-aa4d aa7b-aa7d aab0 aab2-aab4 aab7-aab8 aabe-aabf aac1 aaeb-aaef",
  "aaf5-aaf6 abe3-abea abec-abed fb1e fe20-fe2f 101fd 102e0 10376-1037a 10a01-10a0f 10a38-10a3f",
  "10ae5-10ae6 10d24-10d27 10d69-10d6d 10eab-10eac 10efa-10eff 10f46-10f50 10f82-10f85",
  "11000-11002 11038-11046 11070 11073-11074 1107f-11082 110b0-110ba 110c2 11100-11102",
  "11127-11134 11145-11146 11173 11180-11182 111b3-111c0 111c9-111cc 111ce-111cf 1122c-11237",
  "1123e 11241 112df-112ea 11300-11303 1133b-1133c 1133e-1134d 11357 11362-11374 113b8-113d0",
  "113d2 113e1-113e2 11435-11446 1145e 114b0-114c3 115af-115c0 115dc-115dd 11630-11640",
  "116ab-116b7 1171d-1172b 1182c-1183a 11930-1193e 11940 11942-11943 119d1-119e0 119e4",
  "11a01-11a0a 11a33-11a39 11a3b-11a3e 11a47 11a51-11a5b 11a8a-11a99 11b60-11b67 11c2f-11c3f",
  "11c92-11cb6 11d31-11d45 11d47 11d8a-11d97 11ef3-11ef6 11f00-11f01 11f03 11f34-11f42 11f5a",
  "13440 13447-13455 1611e-1612f 16af0-16af4 16b30-16b36 16f4f 16f51-16f92 16fe4-16ff1",
  "1bc9d-1bc9e 1cf00-1cf46 1d165-1d169 1d16d-1d182 1d185-1d18b 1d1aa-1d1ad 1d242-1d244",
  "1da00-1da36 1da3b-1da6c 1da75 1da84 1da9b-1daaf 1e000-1e08f 1e130-1e136 1e2ae 1e2ec-1e2ef",
  "1e4ec-1e4ef 1e5ee-1e5ef 1e6e3 1e6e6 1e6ee-1e6ef 1e6f5 1e8d0-1e8d6 1e944-1e94a"]

/-- Is the character a mark on the one before? -/
def isMark (c : Char) : Bool := Run.covers marks c

end CloudClient.Unicode

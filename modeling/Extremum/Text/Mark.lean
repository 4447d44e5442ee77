import Extremum.Text.Table

/-!
# Combining marks

A mark is written on the character before it. Marks of different classes stand in different places
around that character, so that their order does not matter; class zero is that of characters that
are no marks, and of marks whose order always matters. The tables are those of the Unicode standard,
version 16.
-/

namespace Extremum.Text

/-- The marks that take no room of their own. -/
def nonspacingMarks : List (Nat × Nat) :=
  ranges
    "300-36f 483-489 591-5bd 5bf 5c1-5c2 5c4-5c5 5c7 610-61a 64b-65f 670 6d6-6dc 6df-6e4 6e7-6e8
    6ea-6ed 711 730-74a 7a6-7b0 7eb-7f3 7fd 816-819 81b-823 825-827 829-82d 859-85b 897-89f
    8ca-902 93a 93c 941-948 94d 951-957 962-963 981 9bc 9c1-9c4 9cd 9e2-9e3 9fe-a02 a3c a41-a51
    a70-a71 a75 a81-a82 abc ac1-ac8 acd ae2-ae3 afa-b01 b3c b3f b41-b44 b4d-b56 b62-b63 b82 bc0
    bcd c00 c04 c3c c3e-c40 c46-c56 c62-c63 c81 cbc cbf cc6 ccc-ccd ce2-ce3 d00-d01 d3b-d3c
    d41-d44 d4d d62-d63 d81 dca dd2-dd6 e31 e34-e3a e47-e4e eb1 eb4-ebc ec8-ece f18-f19 f35 f37
    f39 f71-f7e f80-f84 f86-f87 f8d-fbc fc6 102d-1030 1032-1037 1039-103a 103d-103e 1058-1059
    105e-1060 1071-1074 1082 1085-1086 108d 109d 135d-135f 1712-1714 1732-1733 1752-1753 1772-1773
    17b7-17bd 17c6 17c9-17d3 17dd 1885-1886 18a9 1920-1922 1927-1928 1932 1939-193b 1a17-1a18 1a1b
    1a56 1a58-1a60 1a62 1a65-1a6c 1a73-1a7f 1ab0-1b03 1b34 1b36-1b3a 1b3c 1b42 1b6b-1b73 1b80-1b81
    1ba2-1ba5 1ba8-1ba9 1bab-1bad 1be6 1be8-1be9 1bed 1bef-1bf1 1c2c-1c33 1c36-1c37 1cd0-1cd2
    1cd4-1ce0 1ce2-1ce8 1ced 1cf4 1cf8-1cf9 1dc0-1dff 20d0-20f0 2cef-2cf1 2d7f 2de0-2dff 302a-302d
    3099-309a a66f-a672 a674-a67d a69e-a69f a6f0-a6f1 a802 a806 a80b a825-a826 a82c a8c4-a8c5
    a8e0-a8f1 a8ff a926-a92d a947-a951 a980-a982 a9b3 a9b6-a9b9 a9bc-a9bd a9e5 aa29-aa2e aa31-aa32
    aa35-aa36 aa43 aa4c aa7c aab0 aab2-aab4 aab7-aab8 aabe-aabf aac1 aaec-aaed aaf6 abe5 abe8 abed
    fb1e fe20-fe2f 101fd 102e0 10376-1037a 10a01-10a0f 10a38-10a3f 10ae5-10ae6 10d24-10d27
    10d69-10d6d 10eab-10eac 10efc-10eff 10f46-10f50 10f82-10f85 11001 11038-11046 11070
    11073-11074 1107f-11081 110b3-110b6 110b9-110ba 110c2 11100-11102 11127-1112b 1112d-11134
    11173 11180-11181 111b6-111be 111c9-111cc 111cf 1122f-11231 11234 11236-11237 1123e 11241
    112df 112e3-112ea 11300-11301 1133b-1133c 11340 11366-11374 113bb-113c0 113ce 113d0 113d2
    113e1-113e2 11438-1143f 11442-11444 11446 1145e 114b3-114b8 114ba 114bf-114c0 114c2-114c3
    115b2-115b5 115bc-115bd 115bf-115c0 115dc-115dd 11633-1163a 1163d 1163f-11640 116ab 116ad
    116b0-116b5 116b7 1171d 1171f 11722-11725 11727-1172b 1182f-11837 11839-1183a 1193b-1193c
    1193e 11943 119d4-119db 119e0 11a01-11a0a 11a33-11a38 11a3b-11a3e 11a47 11a51-11a56
    11a59-11a5b 11a8a-11a96 11a98-11a99 11c30-11c3d 11c3f 11c92-11ca7 11caa-11cb0 11cb2-11cb3
    11cb5-11cb6 11d31-11d45 11d47 11d90-11d91 11d95 11d97 11ef3-11ef4 11f00-11f01 11f36-11f3a
    11f40 11f42 11f5a 13440 13447-13455 1611e-16129 1612d-1612f 16af0-16af4 16b30-16b36 16f4f
    16f8f-16f92 16fe4 1bc9d-1bc9e 1cf00-1cf46 1d167-1d169 1d17b-1d182 1d185-1d18b 1d1aa-1d1ad
    1d242-1d244 1da00-1da36 1da3b-1da6c 1da75 1da84 1da9b-1daaf 1e000-1e08f 1e130-1e136 1e2ae
    1e2ec-1e2ef 1e4ec-1e4ef 1e5ee-1e5ef 1e8d0-1e8d6 1e944-1e94a"

/-- The marks that take room of their own. -/
def spacingMarks : List (Nat × Nat) :=
  ranges
    "903 93b 93e-94f 982-983 9be-9cc 9d7 a03 a3e-a40 a83 abe-acc b02-b03 b3e-b57 bbe-bcc bd7
    c01-c03 c41-c44 c82-c83 cbe-cd6 cf3-d03 d3e-d4c d57 d82-d83 dcf-ddf df2-df3 f3e-f3f f7f
    102b-103c 1056-1057 1062-1064 1067-106d 1083-108c 108f 109a-109c 1715 1734 17b6-17c8 1923-1938
    1a19-1a1a 1a55-1a72 1b04 1b35-1b44 1b82 1ba1-1baa 1be7-1bf3 1c24-1c35 1ce1 1cf7 302e-302f
    a823-a827 a880-a881 a8b4-a8c3 a952-a953 a983 a9b4-a9c0 aa2f-aa34 aa4d aa7b-aa7d aaeb-aaef aaf5
    abe3-abea abec 11000-11002 11082 110b0-110b8 1112c 11145-11146 11182 111b3-111c0 111ce
    1122c-11235 112e0-112e2 11302-11303 1133e-1134d 11357 11362-11363 113b8-113cf 11435-11445
    114b0-114c1 115af-115be 11630-1163e 116ac-116b6 1171e-11726 1182c-11838 11930-1193d 11940
    11942 119d1-119df 119e4 11a39 11a57-11a58 11a97 11c2f-11c3e 11ca9-11cb4 11d8a-11d96
    11ef5-11ef6 11f03 11f34-11f41 1612a-1612c 16f51-16f87 16ff0-16ff1 1d165-1d166 1d16d-1d172"

/-- The first and last character of each run of marks of one class, and the class. -/
def markClasses : List (List Nat) :=
  rows
    "300-314-e6 315-315-e8 316-319-dc 31a-31a-e8 31b-31b-d8 31c-320-dc 321-322-ca 323-326-dc
    327-328-ca 329-333-dc 334-338-1 339-33c-dc 33d-346-e6 347-349-dc 34a-34c-e6 34d-34e-dc
    350-352-e6 353-356-dc 357-357-e6 358-358-e8 359-35a-dc 35b-35b-e6 35c-35c-e9 35d-35e-ea
    35f-35f-e9 360-361-ea 362-362-e9 363-36f-e6 483-487-e6 591-591-dc 592-595-e6 596-596-dc
    597-599-e6 59a-59a-de 59b-59b-dc 59c-5a1-e6 5a2-5a7-dc 5a8-5a9-e6 5aa-5aa-dc 5ab-5ac-e6
    5ad-5ad-de 5ae-5ae-e4 5af-5af-e6 5b0-5b0-a 5b1-5b1-b 5b2-5b2-c 5b3-5b3-d 5b4-5b4-e 5b5-5b5-f
    5b6-5b6-10 5b7-5b7-11 5b8-5b8-12 5b9-5ba-13 5bb-5bb-14 5bc-5bc-15 5bd-5bd-16 5bf-5bf-17
    5c1-5c1-18 5c2-5c2-19 5c4-5c4-e6 5c5-5c5-dc 5c7-5c7-12 610-617-e6 618-618-1e 619-619-1f
    61a-61a-20 64b-64b-1b 64c-64c-1c 64d-64d-1d 64e-64e-1e 64f-64f-1f 650-650-20 651-651-21
    652-652-22 653-654-e6 655-656-dc 657-65b-e6 65c-65c-dc 65d-65e-e6 65f-65f-dc 670-670-23
    6d6-6dc-e6 6df-6e2-e6 6e3-6e3-dc 6e4-6e4-e6 6e7-6e8-e6 6ea-6ea-dc 6eb-6ec-e6 6ed-6ed-dc
    711-711-24 730-730-e6 731-731-dc 732-733-e6 734-734-dc 735-736-e6 737-739-dc 73a-73a-e6
    73b-73c-dc 73d-73d-e6 73e-73e-dc 73f-741-e6 742-742-dc 743-743-e6 744-744-dc 745-745-e6
    746-746-dc 747-747-e6 748-748-dc 749-74a-e6 7eb-7f1-e6 7f2-7f2-dc 7f3-7f3-e6 7fd-7fd-dc
    816-819-e6 81b-823-e6 825-827-e6 829-82d-e6 859-85b-dc 897-898-e6 899-89b-dc 89c-89f-e6
    8ca-8ce-e6 8cf-8d3-dc 8d4-8e1-e6 8e3-8e3-dc 8e4-8e5-e6 8e6-8e6-dc 8e7-8e8-e6 8e9-8e9-dc
    8ea-8ec-e6 8ed-8ef-dc 8f0-8f0-1b 8f1-8f1-1c 8f2-8f2-1d 8f3-8f5-e6 8f6-8f6-dc 8f7-8f8-e6
    8f9-8fa-dc 8fb-8ff-e6 93c-93c-7 94d-94d-9 951-951-e6 952-952-dc 953-954-e6 9bc-9bc-7 9cd-9cd-9
    9fe-9fe-e6 a3c-a3c-7 a4d-a4d-9 abc-abc-7 acd-acd-9 b3c-b3c-7 b4d-b4d-9 bcd-bcd-9 c3c-c3c-7
    c4d-c4d-9 c55-c55-54 c56-c56-5b cbc-cbc-7 ccd-ccd-9 d3b-d3c-9 d4d-d4d-9 dca-dca-9 e38-e39-67
    e3a-e3a-9 e48-e4b-6b eb8-eb9-76 eba-eba-9 ec8-ecb-7a f18-f19-dc f35-f35-dc f37-f37-dc
    f39-f39-d8 f71-f71-81 f72-f72-82 f74-f74-84 f7a-f7d-82 f80-f80-82 f82-f83-e6 f84-f84-9
    f86-f87-e6 fc6-fc6-dc 1037-1037-7 1039-103a-9 108d-108d-dc 135d-135f-e6 1714-1715-9
    1734-1734-9 17d2-17d2-9 17dd-17dd-e6 18a9-18a9-e4 1939-1939-de 193a-193a-e6 193b-193b-dc
    1a17-1a17-e6 1a18-1a18-dc 1a60-1a60-9 1a75-1a7c-e6 1a7f-1a7f-dc 1ab0-1ab4-e6 1ab5-1aba-dc
    1abb-1abc-e6 1abd-1abd-dc 1abf-1ac0-dc 1ac1-1ac2-e6 1ac3-1ac4-dc 1ac5-1ac9-e6 1aca-1aca-dc
    1acb-1ace-e6 1b34-1b34-7 1b44-1b44-9 1b6b-1b6b-e6 1b6c-1b6c-dc 1b6d-1b73-e6 1baa-1bab-9
    1be6-1be6-7 1bf2-1bf3-9 1c37-1c37-7 1cd0-1cd2-e6 1cd4-1cd4-1 1cd5-1cd9-dc 1cda-1cdb-e6
    1cdc-1cdf-dc 1ce0-1ce0-e6 1ce2-1ce8-1 1ced-1ced-dc 1cf4-1cf4-e6 1cf8-1cf9-e6 1dc0-1dc1-e6
    1dc2-1dc2-dc 1dc3-1dc9-e6 1dca-1dca-dc 1dcb-1dcc-e6 1dcd-1dcd-ea 1dce-1dce-d6 1dcf-1dcf-dc
    1dd0-1dd0-ca 1dd1-1df5-e6 1df6-1df6-e8 1df7-1df8-e4 1df9-1df9-dc 1dfa-1dfa-da 1dfb-1dfb-e6
    1dfc-1dfc-e9 1dfd-1dfd-dc 1dfe-1dfe-e6 1dff-1dff-dc 20d0-20d1-e6 20d2-20d3-1 20d4-20d7-e6
    20d8-20da-1 20db-20dc-e6 20e1-20e1-e6 20e5-20e6-1 20e7-20e7-e6 20e8-20e8-dc 20e9-20e9-e6
    20ea-20eb-1 20ec-20ef-dc 20f0-20f0-e6 2cef-2cf1-e6 2d7f-2d7f-9 2de0-2dff-e6 302a-302a-da
    302b-302b-e4 302c-302c-e8 302d-302d-de 302e-302f-e0 3099-309a-8 a66f-a66f-e6 a674-a67d-e6
    a69e-a69f-e6 a6f0-a6f1-e6 a806-a806-9 a82c-a82c-9 a8c4-a8c4-9 a8e0-a8f1-e6 a92b-a92d-dc
    a953-a953-9 a9b3-a9b3-7 a9c0-a9c0-9 aab0-aab0-e6 aab2-aab3-e6 aab4-aab4-dc aab7-aab8-e6
    aabe-aabf-e6 aac1-aac1-e6 aaf6-aaf6-9 abed-abed-9 fb1e-fb1e-1a fe20-fe26-e6 fe27-fe2d-dc
    fe2e-fe2f-e6 101fd-101fd-dc 102e0-102e0-dc 10376-1037a-e6 10a0d-10a0d-dc 10a0f-10a0f-e6
    10a38-10a38-e6 10a39-10a39-1 10a3a-10a3a-dc 10a3f-10a3f-9 10ae5-10ae5-e6 10ae6-10ae6-dc
    10d24-10d27-e6 10d69-10d6d-e6 10eab-10eac-e6 10efd-10eff-dc 10f46-10f47-dc 10f48-10f4a-e6
    10f4b-10f4b-dc 10f4c-10f4c-e6 10f4d-10f50-dc 10f82-10f82-e6 10f83-10f83-dc 10f84-10f84-e6
    10f85-10f85-dc 11046-11046-9 11070-11070-9 1107f-1107f-9 110b9-110b9-9 110ba-110ba-7
    11100-11102-e6 11133-11134-9 11173-11173-7 111c0-111c0-9 111ca-111ca-7 11235-11235-9
    11236-11236-7 112e9-112e9-7 112ea-112ea-9 1133b-1133c-7 1134d-1134d-9 11366-11374-e6
    113ce-113d0-9 11442-11442-9 11446-11446-7 1145e-1145e-e6 114c2-114c2-9 114c3-114c3-7
    115bf-115bf-9 115c0-115c0-7 1163f-1163f-9 116b6-116b6-9 116b7-116b7-7 1172b-1172b-9
    11839-11839-9 1183a-1183a-7 1193d-1193e-9 11943-11943-7 119e0-119e0-9 11a34-11a34-9
    11a47-11a47-9 11a99-11a99-9 11c3f-11c3f-9 11d42-11d42-7 11d44-11d45-9 11d97-11d97-9
    11f41-11f42-9 1612f-1612f-9 16af0-16af4-1 16b30-16b36-e6 16ff0-16ff1-6 1bc9e-1bc9e-1
    1d165-1d166-d8 1d167-1d169-1 1d16d-1d16d-e2 1d16e-1d172-d8 1d17b-1d182-dc 1d185-1d189-e6
    1d18a-1d18b-dc 1d1aa-1d1ad-e6 1d242-1d244-e6 1e000-1e08f-e6 1e130-1e136-e6 1e2ae-1e2ae-e6
    1e2ec-1e2ef-e6 1e4ec-1e4ed-e8 1e4ee-1e4ee-dc 1e4ef-1e4ef-e6 1e5ee-1e5ee-e6 1e5ef-1e5ef-dc
    1e8d0-1e8d6-dc 1e944-1e949-e6 1e94a-1e94a-7"

/-- The character is a mark that takes no room of its own. -/
def isNonspacing (c : Char) : Bool := 0x300 ≤ c.toNat && inRanges nonspacingMarks c

def isMark (c : Char) : Bool := isNonspacing c || (0x300 ≤ c.toNat && inRanges spacingMarks c)

def markClass (c : Char) : Nat :=
  if c.toNat < 0x300 then 0
  else
    (markClasses.findSome? fun
      | [first, last, cls] => if first ≤ c.toNat ∧ c.toNat ≤ last then some cls else none
      | _ => none).getD 0

/-- The class of the marks that join two consonants. -/
def joinerClass : Nat := 9

end Extremum.Text

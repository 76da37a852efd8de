import CommandLine.Text.Ranges

/-!
# Letter case

Lower case is the Unicode 14.0 case mapping, kept as runs `start:count:delta:stride`: the
`count` code points `start`, `start + stride`, … map to themselves plus `delta`. The one
character whose lower case is two characters, U+0130, is written out. The capital sigma
depends on its context: at the end of a word it becomes the final sigma (`lower`).

Upper case is only needed to compare with names written in ASCII capitals, so
`upperAscii?` gives the upper case of a character only when it is ASCII, and `none`
otherwise: a character whose upper case is not ASCII can never be part of such a name.
-/

namespace CommandLine.Text

/-- One run of the lower-case table. -/
structure CaseRun where
  start : Nat
  count : Nat
  delta : Int
  stride : Nat
  deriving Inhabited

/-- Reads `start:count:delta:stride`, the start in hexadecimal and the rest in decimal. -/
def CaseRun.ofEntry? (word : List Char) : Option CaseRun :=
  match word.splitOn ':' with
  | [a, n, d, s] =>
    match readHex a, (String.ofList n).toNat?, (String.ofList d).toInt?, (String.ofList s).toNat? with
    | some a, some n, some d, some s => some ⟨a, n, d, s⟩
    | _, _, _, _ => none
  | _ => none

/-- The lower-case runs, sorted by start. -/
def lowerRuns : Array CaseRun :=
  ((
  "41:26:32:1 c0:23:32:1 d8:7:32:1 100:24:1:2 132:3:1:2 139:8:1:2 14a:23:1:2 178:1:-121:1 " ++
  "179:3:1:2 181:1:210:1 182:2:1:2 186:1:206:1 187:1:1:1 189:2:205:1 18b:1:1:1 18e:1:79:1 " ++
  "18f:1:202:1 190:1:203:1 191:1:1:1 193:1:205:1 194:1:207:1 196:1:211:1 197:1:209:1 198:1:1:1 " ++
  "19c:1:211:1 19d:1:213:1 19f:1:214:1 1a0:3:1:2 1a6:1:218:1 1a7:1:1:1 1a9:1:218:1 1ac:1:1:1 " ++
  "1ae:1:218:1 1af:1:1:1 1b1:2:217:1 1b3:2:1:2 1b7:1:219:1 1b8:1:1:1 1bc:1:1:1 1c4:1:2:1 " ++
  "1c5:1:1:1 1c7:1:2:1 1c8:1:1:1 1ca:1:2:1 1cb:9:1:2 1de:9:1:2 1f1:1:2:1 1f2:2:1:2 1f6:1:-97:1 " ++
  "1f7:1:-56:1 1f8:20:1:2 220:1:-130:1 222:9:1:2 23a:1:10795:1 23b:1:1:1 23d:1:-163:1 " ++
  "23e:1:10792:1 241:1:1:1 243:1:-195:1 244:1:69:1 245:1:71:1 246:5:1:2 370:2:1:2 376:1:1:1 " ++
  "37f:1:116:1 386:1:38:1 388:3:37:1 38c:1:64:1 38e:2:63:1 391:17:32:1 3a3:9:32:1 3cf:1:8:1 " ++
  "3d8:12:1:2 3f4:1:-60:1 3f7:1:1:1 3f9:1:-7:1 3fa:1:1:1 3fd:3:-130:1 400:16:80:1 410:32:32:1 " ++
  "460:17:1:2 48a:27:1:2 4c0:1:15:1 4c1:7:1:2 4d0:48:1:2 531:38:48:1 10a0:38:7264:1 " ++
  "10c7:1:7264:1 10cd:1:7264:1 13a0:80:38864:1 13f0:6:8:1 1c90:43:-3008:1 1cbd:3:-3008:1 " ++
  "1e00:75:1:2 1e9e:1:-7615:1 1ea0:48:1:2 1f08:8:-8:1 1f18:6:-8:1 1f28:8:-8:1 1f38:8:-8:1 " ++
  "1f48:6:-8:1 1f59:4:-8:2 1f68:8:-8:1 1f88:8:-8:1 1f98:8:-8:1 1fa8:8:-8:1 1fb8:2:-8:1 " ++
  "1fba:2:-74:1 1fbc:1:-9:1 1fc8:4:-86:1 1fcc:1:-9:1 1fd8:2:-8:1 1fda:2:-100:1 1fe8:2:-8:1 " ++
  "1fea:2:-112:1 1fec:1:-7:1 1ff8:2:-128:1 1ffa:2:-126:1 1ffc:1:-9:1 2126:1:-7517:1 " ++
  "212a:1:-8383:1 212b:1:-8262:1 2132:1:28:1 2160:16:16:1 2183:1:1:1 24b6:26:26:1 2c00:48:48:1 " ++
  "2c60:1:1:1 2c62:1:-10743:1 2c63:1:-3814:1 2c64:1:-10727:1 2c67:3:1:2 2c6d:1:-10780:1 " ++
  "2c6e:1:-10749:1 2c6f:1:-10783:1 2c70:1:-10782:1 2c72:1:1:1 2c75:1:1:1 2c7e:2:-10815:1 " ++
  "2c80:50:1:2 2ceb:2:1:2 2cf2:1:1:1 a640:23:1:2 a680:14:1:2 a722:7:1:2 a732:31:1:2 a779:2:1:2 " ++
  "a77d:1:-35332:1 a77e:5:1:2 a78b:1:1:1 a78d:1:-42280:1 a790:2:1:2 a796:10:1:2 " ++
  "a7aa:1:-42308:1 a7ab:1:-42319:1 a7ac:1:-42315:1 a7ad:1:-42305:1 a7ae:1:-42308:1 " ++
  "a7b0:1:-42258:1 a7b1:1:-42282:1 a7b2:1:-42261:1 a7b3:1:928:1 a7b4:8:1:2 a7c4:1:-48:1 " ++
  "a7c5:1:-42307:1 a7c6:1:-35384:1 a7c7:2:1:2 a7d0:1:1:1 a7d6:2:1:2 a7f5:1:1:1 ff21:26:32:1 " ++
  "10400:40:40:1 104b0:36:40:1 10570:11:39:1 1057c:15:39:1 1058c:7:39:1 10594:2:39:1 " ++
  "10c80:51:64:1 118a0:32:32:1 16e40:32:32:1 1e900:34:34:1 ").toList.splitOn ' ' |>.filterMap CaseRun.ofEntry?).toArray

/-- The lower-case code point of `n` under one run, if the run covers it. -/
def CaseRun.shift? (r : CaseRun) (n : Nat) : Option Nat :=
  if r.start ≤ n ∧ n < r.start + r.count * r.stride ∧ (n - r.start) % r.stride = 0 then
    some (Int.toNat (n + r.delta))
  else none

/-- The lower case of a character, as text. -/
def lowerChar (c : Char) : String :=
  if 'A' ≤ c ∧ c ≤ 'Z' then String.singleton (Char.ofNat (c.toNat + 32))
  else if c.toNat < 0x80 then String.singleton c
  else if c.toNat = 0x130 then "i\u0307"
  else
    match lowerRuns.toList.findSome? (·.shift? c.toNat) with
    | some m => String.singleton (Char.ofNat m)
    | none => String.singleton c

/-- The characters with the Cased property (Unicode 14.0): those that are upper, lower or
title case. -/
def casedTable : Array CodeRange := CodeRange.readTable (
  "41-5a 61-7a aa b5 ba c0-d6 d8-f6 f8-1ba 1bc-1bf 1c4-293 295-2b8 2c0-2c1 2e0-2e4 345 " ++
  "370-373 376-377 37a-37d 37f 386 388-38a 38c 38e-3a1 3a3-3f5 3f7-481 48a-52f 531-556 " ++
  "560-588 10a0-10c5 10c7 10cd 10d0-10fa 10fd-10ff 13a0-13f5 13f8-13fd 1c80-1c88 1c90-1cba " ++
  "1cbd-1cbf 1d00-1dbf 1e00-1f15 1f18-1f1d 1f20-1f45 1f48-1f4d 1f50-1f57 1f59 1f5b 1f5d " ++
  "1f5f-1f7d 1f80-1fb4 1fb6-1fbc 1fbe 1fc2-1fc4 1fc6-1fcc 1fd0-1fd3 1fd6-1fdb 1fe0-1fec " ++
  "1ff2-1ff4 1ff6-1ffc 2071 207f 2090-209c 2102 2107 210a-2113 2115 2119-211d 2124 2126 " ++
  "2128 212a-212d 212f-2134 2139 213c-213f 2145-2149 214e 2160-217f 2183-2184 24b6-24e9 " ++
  "2c00-2ce4 2ceb-2cee 2cf2-2cf3 2d00-2d25 2d27 2d2d a640-a66d a680-a69d a722-a787 " ++
  "a78b-a78e a790-a7ca a7d0-a7d1 a7d3 a7d5-a7d9 a7f5-a7f6 a7f8-a7fa ab30-ab5a ab5c-ab68 " ++
  "ab70-abbf fb00-fb06 fb13-fb17 ff21-ff3a ff41-ff5a 10400-1044f 104b0-104d3 104d8-104fb " ++
  "10570-1057a 1057c-1058a 1058c-10592 10594-10595 10597-105a1 105a3-105b1 105b3-105b9 " ++
  "105bb-105bc 10780 10783-10785 10787-107b0 107b2-107ba 10c80-10cb2 10cc0-10cf2 " ++
  "118a0-118df 16e40-16e7f 1d400-1d454 1d456-1d49c 1d49e-1d49f 1d4a2 1d4a5-1d4a6 " ++
  "1d4a9-1d4ac 1d4ae-1d4b9 1d4bb 1d4bd-1d4c3 1d4c5-1d505 1d507-1d50a 1d50d-1d514 " ++
  "1d516-1d51c 1d51e-1d539 1d53b-1d53e 1d540-1d544 1d546 1d54a-1d550 1d552-1d6a5 " ++
  "1d6a8-1d6c0 1d6c2-1d6da 1d6dc-1d6fa 1d6fc-1d714 1d716-1d734 1d736-1d74e 1d750-1d76e " ++
  "1d770-1d788 1d78a-1d7a8 1d7aa-1d7c2 1d7c4-1d7cb 1df00-1df09 1df0b-1df1e 1e900-1e943 " ++
  "1f130-1f149 1f150-1f169 1f170-1f189 ")

/-- The characters with the Case_Ignorable property (Unicode 14.0): marks, format characters,
modifier letters and symbols, and the punctuation that may stand inside a word. -/
def caseIgnorableTable : Array CodeRange := CodeRange.readTable (
  "27 2e 3a 5e 60 a8 ad af b4 b7-b8 2b0-36f 374-375 37a 384-385 387 483-489 559 55f " ++
  "591-5bd 5bf 5c1-5c2 5c4-5c5 5c7 5f4 600-605 610-61a 61c 640 64b-65f 670 6d6-6dd 6df-6e8 " ++
  "6ea-6ed 70f 711 730-74a 7a6-7b0 7eb-7f5 7fa 7fd 816-82d 859-85b 888 890-891 898-89f " ++
  "8c9-902 93a 93c 941-948 94d 951-957 962-963 971 981 9bc 9c1-9c4 9cd 9e2-9e3 9fe a01-a02 " ++
  "a3c a41-a42 a47-a48 a4b-a4d a51 a70-a71 a75 a81-a82 abc ac1-ac5 ac7-ac8 acd ae2-ae3 " ++
  "afa-aff b01 b3c b3f b41-b44 b4d b55-b56 b62-b63 b82 bc0 bcd c00 c04 c3c c3e-c40 c46-c48 " ++
  "c4a-c4d c55-c56 c62-c63 c81 cbc cbf cc6 ccc-ccd ce2-ce3 d00-d01 d3b-d3c d41-d44 d4d " ++
  "d62-d63 d81 dca dd2-dd4 dd6 e31 e34-e3a e46-e4e eb1 eb4-ebc ec6 ec8-ecd f18-f19 f35 f37 " ++
  "f39 f71-f7e f80-f84 f86-f87 f8d-f97 f99-fbc fc6 102d-1030 1032-1037 1039-103a 103d-103e " ++
  "1058-1059 105e-1060 1071-1074 1082 1085-1086 108d 109d 10fc 135d-135f 1712-1714 " ++
  "1732-1733 1752-1753 1772-1773 17b4-17b5 17b7-17bd 17c6 17c9-17d3 17d7 17dd 180b-180f " ++
  "1843 1885-1886 18a9 1920-1922 1927-1928 1932 1939-193b 1a17-1a18 1a1b 1a56 1a58-1a5e " ++
  "1a60 1a62 1a65-1a6c 1a73-1a7c 1a7f 1aa7 1ab0-1ace 1b00-1b03 1b34 1b36-1b3a 1b3c 1b42 " ++
  "1b6b-1b73 1b80-1b81 1ba2-1ba5 1ba8-1ba9 1bab-1bad 1be6 1be8-1be9 1bed 1bef-1bf1 " ++
  "1c2c-1c33 1c36-1c37 1c78-1c7d 1cd0-1cd2 1cd4-1ce0 1ce2-1ce8 1ced 1cf4 1cf8-1cf9 " ++
  "1d2c-1d6a 1d78 1d9b-1dff 1fbd 1fbf-1fc1 1fcd-1fcf 1fdd-1fdf 1fed-1fef 1ffd-1ffe " ++
  "200b-200f 2018-2019 2024 2027 202a-202e 2060-2064 2066-206f 2071 207f 2090-209c " ++
  "20d0-20f0 2c7c-2c7d 2cef-2cf1 2d6f 2d7f 2de0-2dff 2e2f 3005 302a-302d 3031-3035 303b " ++
  "3099-309e 30fc-30fe a015 a4f8-a4fd a60c a66f-a672 a674-a67d a67f a69c-a69f a6f0-a6f1 " ++
  "a700-a721 a770 a788-a78a a7f2-a7f4 a7f8-a7f9 a802 a806 a80b a825-a826 a82c a8c4-a8c5 " ++
  "a8e0-a8f1 a8ff a926-a92d a947-a951 a980-a982 a9b3 a9b6-a9b9 a9bc-a9bd a9cf a9e5-a9e6 " ++
  "aa29-aa2e aa31-aa32 aa35-aa36 aa43 aa4c aa70 aa7c aab0 aab2-aab4 aab7-aab8 aabe-aabf " ++
  "aac1 aadd aaec-aaed aaf3-aaf4 aaf6 ab5b-ab5f ab69-ab6b abe5 abe8 abed fb1e fbb2-fbc2 " ++
  "fe00-fe0f fe13 fe20-fe2f fe52 fe55 feff ff07 ff0e ff1a ff3e ff40 ff70 ff9e-ff9f ffe3 " ++
  "fff9-fffb 101fd 102e0 10376-1037a 10780-10785 10787-107b0 107b2-107ba 10a01-10a03 " ++
  "10a05-10a06 10a0c-10a0f 10a38-10a3a 10a3f 10ae5-10ae6 10d24-10d27 10eab-10eac " ++
  "10f46-10f50 10f82-10f85 11001 11038-11046 11070 11073-11074 1107f-11081 110b3-110b6 " ++
  "110b9-110ba 110bd 110c2 110cd 11100-11102 11127-1112b 1112d-11134 11173 11180-11181 " ++
  "111b6-111be 111c9-111cc 111cf 1122f-11231 11234 11236-11237 1123e 112df 112e3-112ea " ++
  "11300-11301 1133b-1133c 11340 11366-1136c 11370-11374 11438-1143f 11442-11444 11446 " ++
  "1145e 114b3-114b8 114ba 114bf-114c0 114c2-114c3 115b2-115b5 115bc-115bd 115bf-115c0 " ++
  "115dc-115dd 11633-1163a 1163d 1163f-11640 116ab 116ad 116b0-116b5 116b7 1171d-1171f " ++
  "11722-11725 11727-1172b 1182f-11837 11839-1183a 1193b-1193c 1193e 11943 119d4-119d7 " ++
  "119da-119db 119e0 11a01-11a0a 11a33-11a38 11a3b-11a3e 11a47 11a51-11a56 11a59-11a5b " ++
  "11a8a-11a96 11a98-11a99 11c30-11c36 11c38-11c3d 11c3f 11c92-11ca7 11caa-11cb0 " ++
  "11cb2-11cb3 11cb5-11cb6 11d31-11d36 11d3a 11d3c-11d3d 11d3f-11d45 11d47 11d90-11d91 " ++
  "11d95 11d97 11ef3-11ef4 13430-13438 16af0-16af4 16b30-16b36 16b40-16b43 16f4f " ++
  "16f8f-16f9f 16fe0-16fe1 16fe3-16fe4 1aff0-1aff3 1aff5-1affb 1affd-1affe 1bc9d-1bc9e " ++
  "1bca0-1bca3 1cf00-1cf2d 1cf30-1cf46 1d167-1d169 1d173-1d182 1d185-1d18b 1d1aa-1d1ad " ++
  "1d242-1d244 1da00-1da36 1da3b-1da6c 1da75 1da84 1da9b-1da9f 1daa1-1daaf 1e000-1e006 " ++
  "1e008-1e018 1e01b-1e021 1e023-1e024 1e026-1e02a 1e130-1e13d 1e2ae 1e2ec-1e2ef " ++
  "1e8d0-1e8d6 1e944-1e94b 1f3fb-1f3ff e0001 e0020-e007f e0100-e01ef ")

def isCased (c : Char) : Bool := CodeRange.member casedTable c.toNat

/-- Whether a character is skipped when looking for the letters around a capital sigma. -/
def isCaseIgnorable (c : Char) : Bool := CodeRange.member caseIgnorableTable c.toNat

/-- Whether a capital sigma ends a word, given the characters before it (nearest first) and
after it: skipping case-ignorable characters, a cased character comes before it and none
after it. -/
def endsWord (before after : List Char) : Bool :=
  (match before.dropWhile isCaseIgnorable with
    | c :: _ => isCased c
    | [] => false) &&
  (match after.dropWhile isCaseIgnorable with
    | c :: _ => !isCased c
    | [] => true)

/-- The lower case of a text: each character's lower case, except that a capital sigma that
ends a word becomes the final sigma. -/
def lower (s : String) : String :=
  let rec go (before : List Char) (cs : List Char) (acc : String) : String :=
    match cs with
    | [] => acc
    | c :: rest =>
      let piece :=
        if c.toNat = 0x3a3 then
          String.singleton (Char.ofNat (if endsWord before rest then 0x3c2 else 0x3c3))
        else lowerChar c
      go (c :: before) rest (acc ++ piece)
  go [] s.toList ""

/-- The upper case of a character when it is ASCII: ASCII letters, and the few characters
whose upper case is made of ASCII capitals (dotless i, long s, sharp s and the Latin
ligatures). -/
def upperAsciiChar? (c : Char) : Option String :=
  if 'a' ≤ c ∧ c ≤ 'z' then some (String.singleton (Char.ofNat (c.toNat - 32)))
  else if c.toNat < 0x80 then some (String.singleton c)
  else match c.toNat with
    | 0xdf => some "SS"
    | 0x131 => some "I"
    | 0x17f => some "S"
    | 0xfb00 => some "FF"
    | 0xfb01 => some "FI"
    | 0xfb02 => some "FL"
    | 0xfb03 => some "FFI"
    | 0xfb04 => some "FFL"
    | 0xfb05 => some "ST"
    | 0xfb06 => some "ST"
    | _ => none

/-- The upper case of a text when all of it is ASCII. -/
def upperAscii? (s : String) : Option String :=
  s.toList.foldlM (fun acc c => (upperAsciiChar? c).map (acc ++ ·)) ""

end CommandLine.Text

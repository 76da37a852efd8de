/-!
# The importable modules

One line per module that can be imported; then the modules loaded before discovery, and the numbers of the types lookups make.
-/

namespace CommandLine.Objects.Data

/-- The modules, one per line. -/
def modulesText : String :=
  "0 0 0\nw 1 0\nF 2 0\n2E 3 0\n2J 4 1 2J\n2U 5 0\n2X 6 0\n3B 7 0\ntJ 8 0\n4B 9 1 4B\n4K a 0\n4P b 1 4P\n4U c 0\n5c d 1 5c\n5Q e 0\n2Fi f 0\n6D g 7 6D 1aV 1b9 1bT 1F7 1GN 1GQ\nMs h 0\nMt i 0\n8G j 0\n8L k 1 8L\n9b l 0\n7A m 0\n7D n 0\n9X o 0\na3 p 0\nbi q 0\nbR r 1 bR\nbY s 1 bY\nc2 t 0\nc5 u 0\ncZ v 2 4B cZ\nda w 1 da\ndc x 1 dc\ndf y 0\ndh z 0\ndl A 0\neq B 0\neu C 0\njR D 0\nk3 E 0\nl6 F 1 l6\nl8 G 0\nlb H 0\n6M I 0\nlC J 0\nlE K 1 lE\n6N L 0\n6O M 0\nlV N 0\nlY O 0\nm4 P 0\nmJ Q 0\nmN R 0\nnA S 0\nnE T 0\noq U 1 oq\nnH V 0\noT W 0\noV X 0\nre Y 0\nrn Z 0\nsb 10 1 sb\nsG 11 1 sG\nsL 12 2 sL tz\nsS 13 0\ntz 14 1 tz\ntH 15 0\n3J 16 0\nu2 17 0\nud 18 1 ud\nuf 19 3 ud uf ux\nux 1a 3 ud uf ux\nuT 1b l 4B bY cZ da dc ud uf ux uT GP uW Yj YQ Z5 Zh Zm ZD wu uU dq 1pm\nvo 1c 6 dc ud uf ux vo uU\nvu 1d 0\nvU 1e 0\nwf 1f 2 4P wf\nwg 1g 0\nwt 1h 0\nwL 1i 0\nwT 1j 3 5c wT y2\ny2 1k 3 5c wT y2\ny9 1l 0\n5S 1m 0\n61 1n 0\nz6 1o 0\nzv 1p 0\nAH 1q 0\nAY 1r 0\nBd 1s 0\nBr 1t 0\nBA 1u 0\nBJ 1v 0\nBZ 1w 0\nC6 1x 0\nCz 1y 0\nCP 1z 0\nCT 1A 0\nD5 1B 0\nDh 1C 0\nDF 1D 0\nDP 1E 0\nDQ 1F 0\nDS 1G 0\nEE 1H 0\nGP 1I 1 GP\nI3 1J 1 I3\nIh 1K 1 Ih\nor 1L 0\nIx 1M 0\nvw 1N 0\nJc 1O 1 Jc\nJC 1P 0\nJQ 1Q 1 JQ\nJX 1R 0\na9 1S 0\nKt 1T 0\nKO 1U 1 KO\nKU 1V 1 KU\nLe 1W 3 2J 8L Le\nLv 1X 0\nLD 1Y 4 2J 8L Le LD\nLK 1Z 0\nLT 20 0\nLY 21 2 bR LY\nMc 22 1 Mc\nMf 23 0\nMp 24 0\n6K h 0\n7B i 0\nMr 25 0\nME 26 0\nMG 27 0\nNp 28 0\nNr 29 0\nNs 2a 0\nNt 2b 0\nNu 2c 0\nNz 2d 0\nNA 2e 0\nNN 2f 0\nNT 2g 0\nO0 2h 0\nO6 2i 0\nOb 2j 0\nya 2k 0\n4L 2l 0\nQC 2m 0\nuZ 2n 0\nRq 2o 0\nRK 2p 0\nRS 2q 0\nSj 2r 1 Sj\nSk 2s 0\nSo 2t 0\nSr 2u 0\nSw 2v 0\nSD 2w 0\nSE 2x 0\nSF 2y 0\nSG 2z 0\nSH 2A 0\nSJ 2B 0\nSU 2C 0\nSZ 2D 0\nT3 2E 0\nTh 2F 0\nTi 2G 0\nTm 2H 0\nTn 2I 0\nTr 2J 0\nTB 2K 0\nTQ 2L 0\nU2 2M 0\n2p 2N 0\nOl 2O 0\nUf 2P 0\nuy 2Q 0\nW1 2R 8 4B cZ dc W1 Wr wu uU 1o6\nWr 2S 6 4B cZ dc Wr wu uU\nWN 2T 0\n7E 2U 0\nIy 2V 0\nXn 2W 1 Xn\nuW 2X 8 4B cZ uW YQ Z5 Zm wu dq\nYj 2Y e 4B bY cZ da GP uW Yj YQ Z5 Zm ZD wu dq 1pm\nYQ 2Z 8 4B cZ uW YQ Z5 Zm wu dq\nZ5 30 8 4B cZ uW YQ Z5 Zm wu dq\nZh 31 h 4B bY cZ da dc GP uW Yj YQ Z5 Zh Zm ZD wu uU dq 1pm\nZm 32 8 4B cZ uW YQ Z5 Zm wu dq\nZD 33 c 4B cZ da GP uW YQ Z5 Zm ZD wu dq 1pm\n106 34 0\nIz 35 0\n10G 36 0\n1Q 37 0\n11t 38 1 11t\nos 39 0\n2Fj 3a 0\nMH 3b 0\nwu 3c 3 4B cZ wu\n19r 3d 1 19r\n19N 3e 0\n1aE 3f 0\nIt 3a 0\n1aG 3g 1 1aG\n1aV 3h 3 1aV 1b9 1bT\n1b9 3i 0\n1bT 3j 0\nuU 3k 2 dc uU\nCU 3l 0\nDi 3m 0\nnF 3n 0\n1dz 3o 0\n1dB 3p 0\n1fv 3q 0\n1fy 3r 0\n1fX 3s 0\n1g1 3t 0\n1gQ 3u 0\n1gS 3v 0\n1gU 3w 0\n1gY 3x 0\n1h3 3y 0\n1h4 3z 0\n1h6 3A 0\n1ha 3B 0\n1he 3C 0\n1hj 3D 0\n1ho 3E 0\n1hq 3F 0\n1hv 3G 0\n1hB 3H 0\n1hD 3I 0\n1hN 3J 0\n1i9 3K 0\n1if 3L 0\n1iu 3M 0\n1iv 3N 0\n1ju 3O 0\n1jv 3P 0\n1jz 3Q 0\n1jJ 3R 0\n1jL 3S 0\n1jO 3T 0\n1jY 3U 0\n1k5 3V 0\n1ka 3W 0\n1kg 3X 0\n1ki 3Y 0\n1kl 3Z 0\n1km 40 0\n1kn 41 0\n1kp 42 0\n1kK 43 0\n1kM 44 0\n1kN 45 0\n1kP 46 0\n1kR 47 0\n1kS 48 0\n1kV 49 0\n1kZ 4a 0\n1l0 4b 0\n1l4 4c 0\n1l9 4d 0\n1le 4e 0\n1lg 4f 0\n1li 4g 1 1li\n1ll 4h 5 2J 8L Le LD 1ll\n1lt 4i 0\nYM 4j 0\n1mb 4k 1 1mb\n1me 4l 0\ndq 4m 1 dq\n1nl 4n 0\nf2 4o 0\n1o6 4p 1 1o6\nI4 4q 0\n1oH 4r 2 l6 1oH\nsH 4s 0\nnG 4t 0\n1pm 4u 4 da GP dq 1pm\n3M 4v 0\nNU 4w 0\nK4 4x 0\nMJ 4y 0\nuz 4z 0\n5T 4A 0\n1wS 4B 2 Jc 1wS\nOn 4C 0\nOm 4D 0\nT4 4E 0\n1yN 4F 0\n1zz 4G 0\n1zC 4H 0\nsM 4I 0\nuA 4J 0\n1Ay 4K 0\n1Cn 4L 1 1Cn\nDj 4M 0\n1CB 4N 0\n1DT 4O 2 lE 1DT\nm7 4P 0\nuY 4Q 0\n1F7 4R 1 1F7\n1Fb 4S 3 1F7 1Fb 1FX\n1FW 4T 4 1F7 1Fb 1FW 1FX\n1FX 4U 3 1F7 1Fb 1FX\n1G2 4V 4 1F7 1Fb 1FX 1G2\n1G7 4W 7 1F7 1Fb 1FW 1FX 1G2 1G7 1GG\n1GG 4X 5 1F7 1Fb 1FW 1FX 1GG\n1GN 4Y 2 1F7 1GN\n1GQ 4Z 3 1F7 1GN 1GQ\n1H6 50 8 6D 1aV 1b9 1bT 1F7 1GN 1GQ 1H6\n1HD 51 5 1F7 1HD 1HT 1HU 1Ic\n1HT 52 5 1F7 1HD 1HT 1HU 1Ic\n1HU 53 5 1F7 1HD 1HT 1HU 1Ic\n1Ic 54 5 1F7 1HD 1HT 1HU 1Ic\nMI 55 0\n19E 56 0\nKV 57 0"

/-- The modules loaded before discovery. -/
def startText : String :=
  "0 w F 2E 2U 2X 3B tJ 4K 4U 5Q 2Fi Ms Mt 8G 9b 7A 7D 9X a3 bi c2 c5 df dh dl eq eu jR k3 l8 lb 6M lC 6N 6O lV lY m4 mJ mN nA nE nH oT oV re rn sS tH 3J u2 vu vU wg wt wL y9 5S 61 z6 zv AH AY Bd Br BA BJ BZ C6 Cz CP CT D5 Dh DF DP DQ DS EE or Ix vw JC JX a9 Kt Lv LK LT Mf Mp 6K 7B Mr ME MG Np Nr Ns Nt Nu Nz NA NN NT O0 O6 Ob ya 4L QC uZ Rq RK RS Sk So Sr Sw SD SE SF SG SH SJ SU SZ T3 Th Ti Tm Tn Tr TB TQ U2 2p Ol Uf uy WN 7E Iy 106 Iz 10G 1Q os 2Fj MH 19N 1aE It CU Di nF 1dz 1dB 1fv 1fy 1fX 1g1 1gQ 1gS 1gU 1gY 1h3 1h4 1h6 1ha 1he 1hj 1ho 1hq 1hv 1hB 1hD 1hN 1i9 1if 1iu 1iv 1ju 1jv 1jz 1jJ 1jL 1jO 1jY 1k5 1ka 1kg 1ki 1kl 1km 1kn 1kp 1kK 1kM 1kN 1kP 1kR 1kS 1kV 1kZ 1l0 1l4 1l9 1le 1lg 1lt YM 1me 1nl f2 I4 sH nG 3M NU K4 MJ uz 5T On Om T4 1yN 1zz 1zC sM uA 1Ay Dj 1CB m7 uY MI 19E KV"

/-- The types of bound methods, builtin methods, slot methods, tables and classes. -/
def knownText : String :=
  "WO 7c KR 9J 5k"

end CommandLine.Objects.Data

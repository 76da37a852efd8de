/-!
# Entries of the object world, part 2

The entries numbered 10238 to 15610, one per line.
-/

namespace CommandLine.Objects.Data

/-- Entries 10238 to 15610. -/
def entriesText2 : String :=
  "T 5k P 2oO rl 0 5l 2 2F8 5l C ^ a 6 1KX 2FL 1KZ 2FM 1L7 2FN 1PP 2FO 1MS 2FP 2 ~59 o 1 1L4 ~59\nT 5k P 2oP Rj 0 5l 2 2F9 5l C ^ a 5 1KX 2FH 1KZ 2FI 1L7 2FJ 1PP 2FK 2 ~59 o 1 1L4 ~59\nT 5k P 2oQ Rk 0 5l 2 2Fa 5l C ^ a 8 1KX 2FA 1KZ 2FB 1L7 2FC 1PP 2FD 1MS 2FE 1N8 2FF 1LO 2FG 2 ~59 o 1 1L4 ~59\nT 5k P 2oR Rl 0 5l 2 2Fb 5l C ^ a 8 1KX 2Ft 1KZ 2Fu 1L7 2Fv 1PP 2Fw 1MS 2Fx 1N8 2Fy 1LO 2Fz 2 ~59\nT 5k P 2oS Rn 0 5l 2 2Fc 5l C ^ a 6 1KX 2Fo 1KZ 2Fp 1L7 2Fq 1PP 2Fr 1MS 2Fs 2 ~7d o 1 2 ~7d\nT 5k P 2oT Ro 0 5l 2 2Fd 5l C ^ a 7 1KX 2Fi 1L7 2Fj 1PP 2Fk 1Rb 2Fl 1MS 2Fm 1N8 2Fn 2 ~59 o 1 1L4 ~59\nT 5k P 2oU Rp 0 5l 2 2Fe 5l C ^ a 4 1KX 2Ff 1KZ 2Fg 1MS 2Fh 2 ~59\nO 7c C b S 2Fe o 1 1LQ ~7d\nO 6R C d D ^\nO 6G C d D ^ o 1 1L4 ~7d\nO 7c C b S 2Fd o 1 1LQ ~7d\nO 6R C d D ^\nO 6R C d D ^\nO 6G C d D ^ o 1 1L4 ~7d\nO 6G C d D ^ o 1 1L4 ~7d\nO 6G C d D ^ o 1 1L4 ~7d\nO 7c C b S 2Fc o 1 1LQ ~7d\nO 6R C d D ^\nO 6R C d D ^\nO 6R C d D ^\nO 6G C d D ^ o 1 1L4 ~7d\nO 7c C b S 2Fb o 1 1LQ ~7d\nO 6R C d D ^\nO 6R C d D ^\nO 6R C d D ^\nO 6G C d D ^ o 1 1L4 ~7d\nO 6G C d D ^ o 1 1L4 ~7d\nO 6G C d D ^ o 1 1L4 ~7d\nO 7c C b S 2Fa o 1 1LQ ~7d\nO 6R C d D ^\nO 6R C d D ^\nO 6R C d D ^\nO 6G C d D ^ o 1 1L4 ~7d\nO 6G C d D ^ o 1 1L4 ~7d\nO 6G C d D ^ o 1 1L4 ~7d\nO 7c C b S 2F9 o 1 1LQ ~7d\nO 6R C d D ^\nO 6R C d D ^\nO 6R C d D ^\nO 7c C b S 2F8 o 1 1LQ ~7d\nO 6R C d D ^\nO 6R C d D ^\nO 6R C d D ^\nO 6G C d D ^ o 1 1L4 ~7d\nO 7c C b S 2F7 o 1 1LQ ~7d\nO 6R C d D ^\nO 6R C d D ^\nO 6R C d D ^\nO 6G C d D ^ o 1 1L4 ~7d\nO 7c C b S 2F6 o 1 1LQ ~7d\nO 6R C d D ^\nO 6R C d D ^\nO 6R C d D ^\nO 6G C d D ^ o 1 1L4 ~7d\nO 6G C d D ^ o 1 1L4 ~7d\nO 7c C b S 2F5 o 1 1LQ ~7d\nO 6R C d D ^\nO 6R C d D ^\nO 6R C d D ^\nO 6G C d D ^ o 1 1L4 ~7d\nO 6G C d D ^ o 1 1L4 ~7d\nO 7c C b S 2F4 o 1 1LQ ~7d\nO 6R C d D ^\nO 6R C d D ^\nO 6R C d D ^\nO 6G C d D ^ o 1 1L4 ~7d\nO 6G C d D ^ o 1 1L4 ~7d\nO 7c C b S 2F3 o 1 1LQ ~7d\nO 6R C d D ^\nO 6R C d D ^\nO 6R C d D ^\nO 6G C d D ^ o 1 1L4 ~7d\nO 6G C d D ^ o 1 1L4 ~7d\nO 6G C d D ^ o 1 1L4 ~7d\nO 7c C b S 2F2 o 1 1LQ ~7d\nO 6R C d D ^\nO 6R C d D ^\nO 6R C d D ^\nO 6G C d D ^ o 1 1L4 ~7d\nO 6G C d D ^ o 1 1L4 ~7d\nO 6G C d D ^ o 1 1L4 ~7d\nO kA a 2 11W ~59 NL ~59\nO 8N a 9 11W ~59 1M1 2Gr 1M2 ~59 1M3 ~7d 1M4 ~7d 1M5 ~8O 1M6 ~8P 1M7 ~59 1M8 ~8P\nT 5k P = QF 1 152 5 2Gt 152 8r 8s 5l C ^ a 3 1LQ ~59 2 ~59 1M0 2KQ\nT 5k P = QG 1 152 5 2Gu 152 8r 8s 5l C ^ a 3 1LQ ~59 2 ~59 1M0 2KP\nO 9I C ^ o 1 2 ~59\nO 9I C ^ o 2 1NE ~bb 2 ~59\nO 9I C ^ o 1 2 ~59\nO 9I C ^ o 1 2 ~59\nO 9I C ^ o 1 2 ~59\nO 9I C ^ o 1 2 ~59\nO 9I C ^ o 1 2 ~59\nO 9I C ^ o 1 2 ~59\nO 9I C ^ o 1 2 ~59\nO 9I C ^ o 1 2 ~59\nO 9I C ^ o 1 2 ~59\nO 9I C ^ o 1 2 ~59\nT 5k P = QT 1 5l 2 2GH 5l C ^ a g 1LQ ~59 2 ~59 1On ~bb 2oV 2Kt 2oW 2Ku 2oX 2Kv Nh 2Kw 2oY 2Kx 2oZ 2Ky 2p0 2Kz 2p1 2KA 2p2 2KB 2p3 2KC 2p4 2KD 2p5 2KE 1MS 2Hc\nT 5k P = QV 1 2GH 3 2GI 2GH 5l C ^ a h 1LQ ~59 2 ~59 1On ~bb 1Ml 2Ki 10L 2Kj 10J 2Kk 10R 2Kl 117 2Km 1KY 2Kn 1L6 2Ko 1L5 2Kp 2p6 2Kq 1MS 2Kr 1LM 2Ks 10O 2JZ 10K 2K0 10N 2K1\nT 5k P = QW 1 2GH 3 2GJ 2GH 5l C ^ a F 1LQ ~59 2 ~59 1KY 2Jq 1L6 2Jr 2p7 2Js 1L7 2Jt 11d 2Ju 10J 2Jv 10L 2Jw 1L5 2Jx 11b 2Jy 2p8 2Jz 2p9 2JA 2pa 2JB 2pb 2JC 2pc 2JD 2pd 2JE 2pe 2JF 2pf 2JG 2pg 2JH 2ph 2JI 2pi 2JJ 2pj 2JK 2pk 2JL 2pl 2JM 2pm 2JN 2pn 2JO 2po 2JP 2pp 2JQ 2i3 2JR 2pq 2JS 2pr 2JT 2ps 2JU 2pt 2JV 2pu 2JW 1L3 2JX 1M0 2JY 10O 2JZ 10K 2K0 10N 2K1 1cZ 2GK\nT 5k P = QX 1 5l 2 2GK 5l C ^ a 5 1LQ ~59 2pv ~8O 1L3 2Jo 1M0 2Jp 2 ~7d o 1 2 ~7d\nT 5k P = QY 1 5l 2 2GL 5l C ^ a f 1LQ ~59 2 ~59 1On ~bb 2pw ~5j 2px ~5j 2py ~5j 2pz ~9J 2pA 2Ja 2pB 2Jb 2pC 2Jc 2pD 2Jd 2pE 2Je 2pF 2Jf 2pG 2Jg Nh 2Jh\nT 5k P = QZ 1 2GL 5 2GM 2GL 2GI 2GH 5l C ^ a f 1LQ ~59 2 ~59 1On ~bb 1L2 2IN 2pH 2IO 2i3 2IP 2pr 2IQ 2ps 2IR 2pm 2IS 2pt 2IT 2pu 2IU 2pq 2IV 2pI 2IW 1M0 2IX 1cZ 2GP\nT 5k P = R0 1 2GM 6 2GN 2GM 2GL 2GI 2GH 5l C ^ a e 1LQ ~59 1L2 2Ix 2pa 2Iy 1L6 2Iz 10L 2IA 10J 2IB 1L5 2IC 1MS 2Hc 2pJ 2ID 2pb 2IE 2pc 2IF 2pd 2IG 1L3 2IH 2 ~7d o 1 2 ~7d\nT 5k P = R1 1 2GL 5 2GO 2GL 2GJ 2GH 5l C ^ a 8 1LQ ~59 2 ~59 2pf 2GM 1L2 2Iq 2ps 2Ir 1L3 2Is 1M0 2It 1cZ 2GP\nT 5k P = R2 1 5l 2 2GP 5l C ^ a c 1LQ ~59 2pK 2Ij 2pL 2Ik 2pM 2Il 2pN 2Im 2pv ~8O 2pO ~8O 2pP 2In 2pQ ~2GM 1L3 2Io 1M0 2Ip 2 ~7d o 1 2 ~7d\nT 5k P = R3 1 5l 2 2GQ 5l C ^ a j 1LQ ~59 2 ~59 1On ~bb 2pw ~5j 2px ~5j 2pR ~5j 2pS ~i2 2py ~5j 2pz ~9J 2pB 2I1 2pC 2I2 2pT 2I3 2pU 2I4 2pE 2I5 2pA 2I6 2pF 2I7 2pV 2I8 2pG 2I9 Nh 2Ia\nT 5k P = R4 1 2GQ 5 2GR 2GQ 2GI 2GH 5l C ^ a p 1LQ ~59 2 ~59 1On ~bb 1L2 2Hr 1L6 2Hs 1L5 2Ht 10L 2Hu 1MS 2Hv 2pW 2Hw 2pH 2Hx 2pm 2Hy 2i3 2Hz 2pq 2HA 2pX 2HB 2pr 2HC 2ps 2HD 2pt 2HE 2pu 2HF 2pY 2HG 2pZ 2HH 2q0 2HI 2pI 2HJ 2q1 2HK 1M0 2HL 1cZ 2GU\nT 5k P = R5 1 2GR 6 2GS 2GR 2GQ 2GI 2GH 5l C ^ a g 1LQ ~59 1L2 2H6 2pa 2H7 1L6 2H8 10L 2H9 10J 2Ha 1L5 2Hb 1MS 2Hc 2pJ 2Hd 2pb 2He 2pc 2Hf 2pd 2Hg 2pt 2Hh 2pu 2Hi 1L3 2Hj 2 ~7d o 1 2 ~7d\nT 5k P = R6 1 2GQ 5 2GT 2GQ 2GJ 2GH 5l C ^ a 9 1LQ ~59 2 ~59 2pf 2GR 1L2 2H0 2p7 2H1 2pX 2H2 1L3 2H3 1M0 2H4 1cZ 2GU\nT 5k P = R7 1 5l 2 2GU 5l C ^ a a 1LQ ~59 2pK 2GV 2pM 2GW 2pv ~8O 2pO ~8O 2q2 ~8O 2q3 2GX 1L3 2GY 1M0 2GZ 2 ~7d o 1 2 ~7d\nO 2GT a 3 2q4 ~2GR 2q5 ~2GR 2q6 ~5j o 2 2p9 ~2GR 2pa ~2GR\nO 2GT a 3 2q4 ~2GR 2q5 ~2GR 2q6 ~5j o 2 2p9 ~2GR 2pa ~2GR\nO 2GT a 3 2q4 ~2GR 2q5 ~2GR 2q6 ~5j o 2 2p9 ~2GR 2pa ~2GR\nO 6l D ^\nO 6l D ^\nO 9I C ^ o 2 1NE ~bb 2 ~59\nO 9I C ^ o 1 2 ~59\nO 9F I k ~8P o 1 1Ns 2H5\nO 6l D ^ I k ~9J\nO 6l D ^ I k ~7d\nO 9I C q QC R6 2pX o 1 2 ~59\nO 9I C ^\nO 28D a 4 1Ws 2Hq 2fU ~59 2 ~7d 21w ~17H\nO 9I C ^ o 1 1NB ~bb\nO 9I C ^\nO 9I C ^\nO 9I C ^\nO 9I C ^\nO 9F o 2 2 ~7d 1Ns 2Hp\nO 9F o 2 2 ~7d 1Ns 2Ho\nO 9F o 2 2 ~7d 1Ns 2Hn\nO 9F o 2 2 ~7d 1Ns 2Hm\nO 9F o 2 2 ~7d 1Ns 2Hl\nO 9F o 2 2 ~7d 1Ns 2Hk\nO 6l D ^\nO 9I C q QC R5 2pu\nO 9I C q QC R5 2pt\nO 9I C q QC R5 2pd\nO 9I C q QC R5 2pc\nO 9I C q QC R5 2pb\nO 9I C q QC R5 2pJ\nO 9I C q QC R5 2pa\nO 9I C ^ o 1 2 ~59\nO 9I C ^ o 1 1NB ~bb\nO 9I C ^\nO 9I C ^ o 1 1NB ~bb\nO 9I C ^\nO 9F Z k ~7d o 1 1Ns 2I0\nO 9F Z k ~db o 1 1Ns 2HZ\nO 9F Z k ~8P o 1 1Ns 2HY\nO 9F Z k ~8P o 1 1Ns 2HX\nO 9F Z k ~8P o 1 1Ns 2HW\nO 9F Z k ~8P o 1 1Ns 2HV\nO 9F Z k ~8P o 1 1Ns 2HS\nO 9F Z k ~8P o 1 1Ns 2HR\nO 9F Z k ~8P o 1 1Ns 2HQ\nO 9F Z k ~8P o 1 1Ns 2HP\nO 9F Z k ~7d o 1 1Ns 2HO\nO 9F Z k ~7d o 1 1Ns 2HN\nO 9F Z k ~7d o 1 1Ns 2HM\nO 6v D ^ Z k ~5j\nO 6v D ^ Z k ~7d\nO 6l D ^ Z k ~7d\nO 9I C q QC R4 2q0 o 1 2 ~59\nO 9I C q QC R4 2pZ o 1 2 ~59\nO 9I C q QC R4 2pY o 1 2 ~59\nO 9I C q QC R4 2pu o 1 2 ~59\nO 9I C q QC R4 2pt o 1 2 ~59\nO 9I C q QC R4 2ps o 1 2 ~59\nO IO C q QC R4 2pr a 7 1Xz 2HT 1LQ ~59 1 ~59 1MO ~59 2 ~59 RL ~9J 1NO 2HU\nO 9I C q vw 1XG 1XF o 1 1NB ~bb\nO 9I C q QC R4 2pr o 1 2 ~59\nO 9I C q QC R4 2pX o 1 2 ~59\nO 9I C q QC R4 2pq o 1 2 ~59\nO 9I C q QC R4 2i3 o 1 2 ~59\nO 9I C q QC R4 2pm o 1 2 ~59\nO 9I C q QC R4 2pH o 1 2 ~59\nO 9I C q QC R4 2pW o 1 2 ~59\nO b0 F 2Ii a 5 1LQ ~59 1 ~59 1MO ~59 2 ~59 RL ~9J\nO b0 F 2Ih a 5 1LQ ~59 1 ~59 1MO ~59 2 ~59 RL ~9J\nO b0 F 2Ig a 5 1LQ ~59 1 ~59 1MO ~59 2 ~59 RL ~9J\nO b0 F 2If a 5 1LQ ~59 1 ~59 1MO ~59 2 ~59 RL ~9J\nO b0 F 2Ie a 5 1LQ ~59 1 ~59 1MO ~59 2 ~59 RL ~9J\nO 9I C ^ o 1 2 ~59\nO 9I C ^ o 1 2 ~59\nO bz C ^ F 2Id a 5 1LQ ~59 1 ~59 1MO ~59 2 ~59 RL ~9J\nO 9F I k ~5j o 2 2 ~7d 1Ns 2Ic\nO 9F I k ~5j o 2 2 ~7d 1Ns 2Ib\nO 9I C q QC R3 Nh\nO 9I C q QC R3 2pG\nO 9I C q QC R3 2pV o 1 2 ~59\nO 9I C q QC R3 2pE o 2 1NE ~bb 2 ~59\nO 9I C q QC R3 2pU o 1 2 ~59\nO 9I C q QC R3 2pT o 1 2 ~59\nO 9I C q QC R3 2pC o 1 2 ~59\nO 9I C q QC R3 2pB o 1 2 ~59\nO 2GO a 3 2q4 ~2GM 2q5 ~2GM 2q6 ~5j\nO 2GO a 3 2q4 ~2GM 2q5 ~2GM 2q6 ~5j\nO 2GO a 3 2q4 ~2GM 2q5 ~2GM 2q6 ~5j\nO 2GO a 3 2q4 ~2GM 2q5 ~2GM 2q6 ~5j\nO 2GO a 3 2q4 ~2GM 2q5 ~2GM 2q6 ~5j\nO 6l D ^\nO 6l D ^\nO 9I C ^ o 2 1NE ~bb 2 ~59\nO 9F I k ~8P o 1 1Ns 2Iu\nO 6l D ^ I k ~9J\nO 6l D ^ I k ~7d\nO IO C q QC R1 2ps a 7 1Xz 2Iv 1LQ ~59 1 ~59 1MO ~59 2 ~59 RL ~9J 1NO 2Iw\nO 9I C q vw 1XG 1XF o 1 1NB ~bb\nO 9I C q QC R1 2ps o 1 2 ~59\nO 9I C ^\nO 28D a 4 1Ws 2IM 2fU ~59 2 ~7d 21w ~17H\nO 9I C ^\nO 9I C ^\nO 9I C ^\nO 9I C ^\nO 9F o 2 2 ~7d 1Ns 2IL\nO 9F o 2 2 ~7d 1Ns 2IK\nO 9F o 2 2 ~7d 1Ns 2IJ\nO 9F o 2 2 ~7d 1Ns 2II\nO 6l D ^\nO 9I C q QC R0 2pd\nO 9I C q QC R0 2pc\nO 9I C q QC R0 2pb\nO 9I C q QC R0 2pJ\nO 9I C q QC R0 2pa\nO 9I C ^ o 1 2 ~59\nO 9F Z k ~db o 1 1Ns 2J9\nO 9F Z k ~8P o 1 1Ns 2J8\nO 9F Z k ~8P o 1 1Ns 2J5\nO 9F Z k ~8P o 1 1Ns 2J2\nO 9F Z k ~8P o 1 1Ns 2J1\nO 9F Z k ~8P o 1 1Ns 2J0\nO 9F Z k ~8P o 1 1Ns 2IZ\nO 9F Z k ~8P o 1 1Ns 2IY\nO 6v D ^ Z k ~5j\nO 6l D ^ Z k ~7d\nO 9I C q QC QZ 2pq o 1 2 ~59\nO 9I C q QC QZ 2pu o 1 2 ~59\nO 9I C q QC QZ 2pt o 1 2 ~59\nO 9I C q QC QZ 2pm o 1 2 ~59\nO IO C q QC QZ 2ps a 7 1Xz 2J3 1LQ ~59 1 ~59 1MO ~59 2 ~59 RL ~9J 1NO 2J4\nO 9I C q vw 1XG 1XF o 1 1NB ~bb\nO 9I C q QC QZ 2ps o 1 2 ~59\nO IO C q QC QZ 2pr a 7 1Xz 2J6 1LQ ~59 1 ~59 1MO ~59 2 ~59 RL ~9J 1NO 2J7\nO 9I C q vw 1XG 1XF o 1 1NB ~bb\nO 9I C q QC QZ 2pr o 1 2 ~59\nO 9I C q QC QZ 2i3 o 1 2 ~59\nO 9I C q QC QZ 2pH o 1 2 ~59\nO 9I C ^\nO b0 F 2Jn a 5 1LQ ~59 1 ~59 1MO ~59 2 ~59 RL ~9J\nO b0 F 2Jm a 5 1LQ ~59 1 ~59 1MO ~59 2 ~59 RL ~9J\nO b0 F 2Jl a 5 1LQ ~59 1 ~59 1MO ~59 2 ~59 RL ~9J\nO b0 F 2Jk a 5 1LQ ~59 1 ~59 1MO ~59 2 ~59 RL ~9J\nO 9I C ^ o 1 2 ~59\nO 9F I k ~5j o 2 2 ~7d 1Ns 2Jj\nO 9F I k ~5j o 2 2 ~7d 1Ns 2Ji\nO 9I C q QC QY Nh\nO 9I C q QC QY 2pG\nO 9I C q QC QY 2pE o 1 2 ~59\nO 9I C q QC QY 2pD o 1 2 ~59\nO 9I C q QC QY 2pC o 1 2 ~59\nO 9I C q QC QY 2pB o 1 2 ~59\nO 6l D ^\nO 6l D ^\nO 9I C ^\nO 9I C ^\nO 9I C ^ o 1 2 ~59\nO 9I C ^\nO 9I C ^\nO 9I C ^\nO 9I C ^\nO 9I C ^\nO 9I C ^\nO 9I C ^ o 1 2 ~59\nO 28D I k ~2GM a 4 1Ws 2Kh 2fU ~59 2 ~7d 21w ~17H\nO 28D I k ~2GM a 4 1Ws 2Kg 2fU ~59 2 ~7d 21w ~17H\nO 9F I k ~59 o 2 2 ~7d 1Ns 2Kf\nO 9F I k ~59 o 2 2 ~7d 1Ns 2Ke\nO 9F I k ~59 o 2 2 ~7d 1Ns 2Kd\nO 9F I k ~5j o 1 1Ns 2Kc\nO 9F o 2 2 ~7d 1Ns 2Kb\nO 9F I k ~5j o 2 2 ~7d 1Ns 2Ka\nO 9I C ^ o 1 2 ~59\nO 9I C ^ o 1 2 ~59\nO 9I C ^ o 1 2 ~59\nO 9I C ^ o 2 1NE ~bb 2 ~59\nO 9I C ^ o 2 1NE ~bb 2 ~59\nO 9F I k ~8P o 1 1Ns 2K9\nO bz C ^ F 2K8 a 5 1LQ ~59 1 ~59 1MO ~59 2 ~7d RL ~9J\nO 9I C ^ o 1 2 ~59\nO 9I C ^ o 1 2 ~59\nO 9F I k ~8P o 1 1Ns 2K7\nO 9F I k ~8P o 1 1Ns 2K6\nO 9F I k ~8P o 1 1Ns 2K5\nO 9F I k ~8P o 1 1Ns 2K4\nO 9F I k ~8P o 1 1Ns 2K3\nO 9F I k ~8P o 1 1Ns 2K2\nO 6l D ^\nO 6l D ^\nO 9I C ^ o 1 2 ~59\nO 9I C ^ o 1 2 ~59\nO 9I C ^ o 1 2 ~59\nO 9I C q QC QW 2pu o 1 2 ~59\nO 9I C q QC QW 2pt o 1 2 ~59\nO 9I C q QC QW 2ps o 1 2 ~59\nO 9I C q QC QW 2pr o 1 2 ~59\nO 9I C q QC QW 2pq o 1 2 ~59\nO 9I C q QC QW 2i3 o 1 2 ~59\nO 9I C q QC QW 2pn\nO 9I C q QC QW 2pm o 1 2 ~59\nO 9I C q QC QW 2pg\nO 9I C q QC QW 2pf\nO 9I C q QC QW 2pe o 1 2 ~59\nO 9I C q QC QW 2pd\nO 9I C q QC QW 2pc\nO 9I C q QC QW 2pb\nO 9I C q QC QW 2pa\nO 9I C q QC QW 2p9\nO 9I C ^\nO 9I C ^\nO 9I C ^\nO 9I C ^\nO 9I C ^\nO 9I C ^\nO 9I C ^\nO 9I C ^\nO 9I C ^\nO 9I C ^\nO 9I C ^ o 2 1NB ~bb 2 ~59\nO 9F I k ~59 o 1 1Ns 2KO\nO 9F I k ~59 o 1 1Ns 2KN\nO 9F I k ~59 o 1 1Ns 2KM\nO 9F o 2 2 ~7d 1Ns 2KL\nO 9I C ^\nO 9I C ^\nO b0 F 2KK a 5 1LQ ~59 1 ~59 1MO ~59 2 ~59 RL ~9J\nO b0 F 2KJ a 5 1LQ ~59 1 ~59 1MO ~59 2 ~59 RL ~9J\nO b0 F 2KI a 5 1LQ ~59 1 ~59 1MO ~59 2 ~7d RL ~9J\nO b0 F 2KH a 5 1LQ ~59 1 ~59 1MO ~59 2 ~59 RL ~9J\nO b0 F 2KG a 5 1LQ ~59 1 ~59 1MO ~59 2 ~59 RL ~9J\nO b0 F 2KF a 5 1LQ ~59 1 ~59 1MO ~59 2 ~59 RL ~9J\nO 9I C q QC QT 2p5 o 1 2 ~59\nO 9I C q QC QT 2p4 o 1 2 ~59\nO 9I C q QC QT 2p3 o 1 2 ~59\nO 9I C q QC QT 2p2\nO 9I C q QC QT 2p1 o 1 2 ~59\nO 9I C q QC QT 2p0 o 1 2 ~59\nO 9I C q QC QT Nh\nO 9I C q QC QT 2oX o 1 2 ~59\nO 9I C q QC QT 2oW o 1 2 ~59\nO 9I C q QC QT 2oV o 1 2 ~59\nO 6l D ^\nO 6l D ^\nO 8N a 9 11W ~59 1M1 d6 1M2 ~59 1M3 2ME 1M4 ~7d 1M5 ~8O 1M6 ~8P 1M7 ~7d 1M8 ~8P o 1 1M9 ~7d\nT 5k P = 9J 0 1sO 5 2KS 1sO 8r 8s 5l C o X a 2 1L2 2MD 2 ~59\nT 5k P = 9I 1 1sO 6 2KT 1sO 152 8r 8s 5l C ^ a 3 1LQ ~59 1M0 2MC 2 ~7d o 1 2 ~7d\nO 7c C ^ S n\nT 5k P 2q7 9P 0 hU 4 2KV hU hW 5l C q 7D - 9P a r 1KX 2Mc 1L7 2Md 1PP 2Me 1L2 2Mf 1OX 2Mg 1P2 2Mh 1P5 2Mi eD 2Mj 1OO 2Mk 13u 2Ml 1OP 2Mm 13o 2Mn 1PV 2Mo 1OZ 2Mp 1PM 2Mq 1OV 2Mr 1PU 2Ms 13k 2Mt 2q8 2Mu 26T 2Mv 1OQ 2Mw 13D 2Mx 1MT 2My 1N8 2Mz 1LO 2MA 1PW 2MB 2 ~59 o 1 1L4 ~59\nT 5k P 2q9 9R 0 hU 4 2KW hU hW 5l C q 7D - 9R a m 1KX 2LR 1KY 2LS 1L2 2LT eD 2LU 1PL 2LV 1P2 2LW 1P5 2LX In 2LY 13u 2LZ 22d 2M0 13o 2M1 13D 2M2 1OO 2M3 1OQ 2M4 1OP 2M5 1LO 2M6 23r 2M7 20I 2M8 1PW 2M9 11W 2Ma 1p1 2Mb 2 ~59 o 1 1L4 ~59\nT 5k P 2qa 9S 0 hU 4 2KX hU hW 5l C q 7D - 9S a f 1KX 2LD 1L2 2LE 13k 2LF 1OW 2LG 1OZ 2LH 1PM 2LI 1PN 2LJ 13o 2LK 1OO 2LL 1OX 2LM 1P5 2LN eD 2LO 13u 2LP 1PW 2LQ 2 ~59 o 1 1L4 ~59\nT 5k P 2qb 9T 0 hU 4 2KY hU hW 5l C q 7D - 9T a u 1KX 2La 1KY 2Lb 1PP 2Lc 1L2 2Ld eD 2Le 1PL 2Lf 1P2 2Lg 1OX 2Lh 1P5 2Li In 2Lj 13u 2Lk 22d 2Ll 1OO 2Lm 1OQ 2Ln 1OP 2Lo 13D 2Lp 13k 2Lq 1OZ 2Lr 1PM 2Ls 1PN 2Lt 1OV 2Lu 1OW 2Lv 13o 2Lw 1LO 2Lx 23r 2Ly 20I 2Lz 1PW 2LA 11W 2LB 1p1 2LC 2 ~59 o 1 1L4 ~59\nT 5k P 2qc 9L 0 5l 2 2KZ 5l C q 7D - 9L a 8 1KX 2L3 1L2 2L4 32 2L5 1cU 2L6 1cV 2L7 1Qq 2L8 1Yi 2L9 2 ~59 o 1 1L4 ~59\nO 7c C ^ S n\nO 9I C ^\nT hS P = QB 1 160 5 2L2 160 hV hW 5l C ^ a 4 1LQ ~59 2 ~59 1MQ ~i2 1P3 ~i3\nO 7c C b S 2KZ o 1 1LQ ~7d\nO 6R C d D ^\nO 6G C d D ^ o 1 2 ~7d\nO 6G C d D ^ o 1 2 ~7d\nO 6G C d D ^ o 1 2 ~7d\nO 6G C d D ^ o 1 2 ~7d\nO 6l D ^ o 1 2 ~7d\nO 7c C b S 2KY o 1 1LQ ~7d\nO 6R C d D ^\nO 6R C d D ^\nO 6R C d D ^\nO 6G C d D ^ o 2 2 ~7d 1L4 ~7d\nO 6G C d D ^ o 2 2 ~7d 1L4 ~7d\nO 6G C d D ^ o 2 2 ~7d 1L4 ~7d\nO 6G C d D ^ o 2 2 ~7d 1L4 ~7d\nO 6G C d D ^ o 2 2 ~7d 1L4 ~7d\nO 6G C d D ^ o 2 2 ~7d 1L4 ~7d\nO 6G C d D ^ o 2 2 ~7d 1L4 ~7d\nO 6G C d D ^ o 2 2 ~7d 1L4 ~7d\nO 6G C d D ^ o 2 2 ~7d 1L4 ~7d\nO 6G C d D ^ o 1 2 ~7d\nO 6G C d D ^ o 2 2 ~7d 1L4 ~7d\nO 6G C d D ^ o 1 2 ~7d\nO 6G C d D ^ o 1 2 ~7d\nO 6G C d D ^ o 1 2 ~7d\nO 6G C d D ^ o 1 2 ~7d\nO 6G C d D ^ o 1 2 ~7d\nO 6G C d D ^ o 1 2 ~7d\nO 6G C d D ^ o 1 2 ~7d\nO 6G C d D ^ o 1 2 ~7d\nO 6G C d D ^ o 2 2 ~7d 1L4 ~7d\nO 6v D ^\nO 6v D ^\nO 6l D ^ o 1 2 ~7d\nO 6l D ^ o 1 2 ~7d\nO 6l D ^ o 1 2 ~7d\nO 7c C b S 2KX o 1 1LQ ~7d\nO 6R C d D ^\nO 6G C d D ^ o 2 2 ~7d 1L4 ~7d\nO 6G C d D ^ o 2 2 ~7d 1L4 ~7d\nO 6G C d D ^ o 2 2 ~7d 1L4 ~7d\nO 6G C d D ^ o 2 2 ~7d 1L4 ~7d\nO 6G C d D ^ o 2 2 ~7d 1L4 ~7d\nO 6G C d D ^ o 2 2 ~7d 1L4 ~7d\nO 6G C d D ^ o 2 2 ~7d 1L4 ~7d\nO 6G C d D ^ o 2 2 ~7d 1L4 ~7d\nO 6G C d D ^ o 2 2 ~7d 1L4 ~7d\nO 6G C d D ^ o 2 2 ~7d 1L4 ~7d\nO 6G C d D ^ o 2 2 ~7d 1L4 ~7d\nO 6l D ^ o 1 2 ~7d\nO 7c C b S 2KW o 1 1LQ ~7d\nO 6R C d D ^\nO 6R C d D ^\nO 6G C d D ^ o 2 2 ~7d 1L4 ~7d\nO 6G C d D ^ o 2 2 ~7d 1L4 ~7d\nO 6G C d D ^ o 2 2 ~7d 1L4 ~7d\nO 6G C d D ^ o 2 2 ~7d 1L4 ~7d\nO 6G C d D ^ o 2 2 ~7d 1L4 ~7d\nO 6G C d D ^ o 2 2 ~7d 1L4 ~7d\nO 6G C d D ^ o 2 2 ~7d 1L4 ~7d\nO 6G C d D ^ o 1 2 ~7d\nO 6G C d D ^ o 1 2 ~7d\nO 6G C d D ^ o 2 2 ~7d 1L4 ~7d\nO 6G C d D ^ o 1 2 ~7d\nO 6G C d D ^ o 2 2 ~7d 1L4 ~7d\nO 6G C d D ^ o 2 2 ~7d 1L4 ~7d\nO 6v D ^\nO 6v D ^\nO 6l D ^ o 1 2 ~7d\nO 6l D ^ o 1 2 ~7d\nO 6l D ^ o 1 2 ~7d\nO 7c C b S 2KV o 1 1LQ ~7d\nO 6R C d D ^\nO 6R C d D ^\nO 6R C d D ^\nO 6G C d D ^\nO 6G C d D ^\nO 6G C d D ^\nO 6G C d D ^\nO 6G C d D ^\nO 6G C d D ^\nO 6G C d D ^\nO 6G C d D ^\nO 6G C d D ^\nO 6G C d D ^\nO 6G C d D ^\nO 6G C d D ^\nO 6G C d D ^\nO 6G C d D ^\nO 6G C d D ^\nO 6G C d D ^\nO 6G C d D ^\nO 6G C d D ^\nO 6G C d D ^ o 2 2 ~7d 1L4 ~7d\nO 6G C d D ^ o 2 2 ~7d 1L4 ~7d\nO 6G C d D ^ o 2 2 ~7d 1L4 ~7d\nO 6l D ^\nO 6l D ^\nO 6R C d D ^\nO fx a 2 Ik ~59 1Oj ~59\nO kA a 2 11W ~59 NL ~59\nO 8N a 9 11W ~59 1M1 2MF 1M2 ~59 1M3 ~7d 1M4 ~7d 1M5 ~8O 1M6 ~8P 1M7 ~59 1M8 ~8P\nO 9I C ^ o 2 2 ~59 1Nr ~9J\nO 9I C ^ o 1 2 ~59\nO 9I C ^ o 1 2 ~59\nO 9I C ^ o 1 2 ~59\nO 9I C ^ o 1 2 ~59\nO 9I C ^ o 1 2 ~59\nO 9I C ^ o 1 2 ~59\nO 9I C ^ o 1 2 ~59\nO 9I C ^ o 1 2 ~59\nO 9I C ^ o 1 2 ~59\nO 9I C ^ o 1 2 ~59\nO 9I C ^ o 1 2 ~59\nO 9I C ^ o 1 2 ~59\nO 9I C ^ o 1 2 ~59\nO 9I C ^ o 1 2 ~59\nO 9I C ^ o 1 2 ~59\nO 9I C ^ o 1 2 ~59\nO 9I C ^ o 1 2 ~59\nO 9I C ^ o 1 2 ~59\nO 9I C ^ o 1 2 ~59\nO 9I C ^ o 1 2 ~59\nO 9I C ^ o 1 2 ~59\nO 9I C ^ o 1 2 ~59\nO 9I C ^\nO 9I C ^ o 2 1NE ~bb 2 ~59\nO 9I C ^ o 2 1NE ~bb 2 ~59\nT 5k P = 1C 1 bb 3 2N7 bb 5l C ^ a g 2 ~59 1On ~bb 1Xk ~bb 1Xl ~9J 1KX 2R6 1Xm 2R7 1Xn 2R8 1KY 2R9 1Xo 2Ra 1LP 2Rb 1Xp ~bb 11W 2Rc 2qd 2Rd 2qe 2Re pT 2Rf 1LQ ~59\nO 9I C ^ o 1 2 ~59\nO 9I C ^ o 1 2 ~59\nO 9I C ^ o 2 2 ~59 1Nr ~9J\nO 9I C ^ o 1 2 ~59\nO 9I C ^\nO 9I C ^\nO 9I C ^ o 1 2 ~59\nO 9I C ^ o 1 2 ~59\nO 9I C ^ o 1 2 ~59\nO 9I C ^ o 1 2 ~59\nO 9I C ^ o 1 2 ~59\nO 9I C ^ o 2 1NE ~bb 2 ~59\nO 9I C ^ o 2 1NE ~bb 2 ~59\nT 5k P = Pc 1 8r 4 2Nl 8r 8s 5l C ^ a 3 1LQ ~59 1M0 2R5 2 ~7d o 1 2 ~7d\nT 5k P = Pd 1 2QW 3 2Nm 2QW 5l C ^ a 6 1LQ ~59 1L2 2QX 2qf 2QY 2qg 2QY 2qh 2QZ 2 ~7d o 1 2 ~7d\nO 9I C ^ o 1 2 ~59\nO 9I C ^ o 1 2 ~59\nT 5k P = Pg 1 8r 4 2Np 8r 8s 5l C ^ a 3 1LQ ~59 1M0 2QV 2 ~7d o 1 2 ~7d\nT 5k P = Ph 1 5l 2 2Nq 5l C ^ a 6 1LQ ~59 2 ~59 1L2 2QR 2qi 2QS 1L3 2QT 1M0 2QU\nO 9I C ^ o 1 2 ~59\nO 9I C ^ o 1 2 ~59\nO 9I C ^ o 1 2 ~59\nO 9I C ^ o 1 2 ~59\nO 9I C ^ o 2 1NE ~bb 2 ~59\nT 5k P = Pn 1 bb 3 2Nw bb 5l C ^ a f 2 ~59 1On ~bb 1Xk ~bb 1Xl ~9J 1KX 2QG 1Xm 2QH 1Xn 2QI 1KY 2QJ 1Xo 2QK 1LP 2QL 1Xp ~bb 1Nc 2QM 2qj 2QN 2qk 2QO 1LQ ~59\nO 9I C ^ o 1 2 ~59\nT 5k P = Pp 1 bb 3 2Ny bb 5l C ^ a j 2 ~59 1On ~bb 1Xk ~bb 1Xl ~9J 1KX 2Qr 1Xm 2Qs 1Xn 2Qt 1KY 2Qu 1Xo 2Qv 1LP 2Qw 1Xp ~bb 1Nc 2Qx 2qj 2Qy 2qk 2Qz 2ql 2QA 2qm 2QB 2qn 2QC v 2QD 1LQ ~59\nO 9I C ^ o 1 2 ~59\nT 5k P = Pr 1 bb 3 2NA bb 5l C ^ a g 2 ~59 1On ~bb 1Xk ~bb 1Xl ~9J 1KX 2Qf 1Xm 2Qg 1Xn 2Qh 1KY 2Qi 1Xo 2Qj 1LP 2Qk 1Xp ~bb 1Nc 2Ql 2qj 2Qm 284 2Qn pm 2Qo 1LQ ~59\nO 9I C ^ o 1 2 ~59\nO 9I C ^ o 1 1NE ~bb\nO 9I C ^\nO 9I C ^ o 2 1NE ~bb 2 ~59\nO 9I C ^\nO 9I C ^\nO 9I C ^ o 1 2 ~59\nT 5k P = Pz 1 bb 3 2NI bb 5l C ^ a g 2 ~59 1On ~bb 1Xk ~bb 1Xl ~9J 1KX 2Q3 1Xm 2Q4 1Xn 2Q5 1KY 2Q6 1Xo 2Q7 1LP 2Q8 1Xp ~bb 2qo 2Q9 pb 2Qa oV 2Qb 2qp 2Qc 1LQ ~59\nO 9I C ^ o 1 2 ~59\nT 5k P = PB 1 bb 3 2NK bb 5l C ^ a h 2 ~59 1On ~bb 1Xk ~bb 1Xl ~9J 1KX 2PQ 1Xm 2PR 1Xn 2PS 1KY 2PT 1Xo 2PU 1LP 2PV 1Xp ~bb Ik 2PW Il 2PX 1NA 2PY 2qq 2PZ cc 2Q0 1LQ ~59\nT 5k P = PC 1 2NK 4 2NL 2NK bb 5l C ^ a 5 1LQ ~59 1KX 2PM 1KY 2PN 1L3 2PO 2 ~7d o 1 2 ~7d\nO 9I C ^\nO 9I C ^\nO 9I C ^ o 2 1NE ~bb 2 ~59\nO 9I C ^ o 1 2 ~59\nT 5k P = PH 1 bb 3 2NQ bb 5l C ^ a i 2 ~59 1On ~bb 1Xk ~bb 1Xl ~9J 1KX 2Py 1Xm 2Pz 1Xn 2PA 1KY 2PB 1Xo 2PC 1LP 2PD 1Xp ~bb 1Zj 2PE Ik 2PF Il 2PG 1NA 2PH 2qq 2PI cc 2PJ 1LQ ~59\nT 5k P = PI 1 2NQ 4 2NR 2NQ bb 5l C ^ a 5 1LQ ~59 1KX 2Pu 1KY 2Pv 1L3 2Pw 2 ~7d o 1 2 ~7d\nO 9I C ^ o 2 1NE ~bb 2 ~59\nO 9I C ^ o 2 1NE ~bb 2 ~59\nO 9I C ^ o 1 2 ~59\nO 9I C ^ o 2 1NE ~bb 2 ~59\nO 9I C ^ o 2 1NE ~bb 2 ~59\nO 9I C ^\nO 9I C ^\nO 9I C ^\nO 9I C ^\nO 9I C ^\nO 9I C ^ o 2 1NE ~bb 2 ~59\nO 9I C ^ o 1 2 ~59\nO 9I C ^ o 1 2 ~59\nO 9I C ^ o 1 2 ~59\nO 9I C ^ o 1 2 ~59\nO 9I C ^ o 1 2 ~59\nO 9I C ^ o 2 1NE ~bb 2 ~59\nO 9I C ^ o 1 2 ~59\nO 9I C ^ o 1 2 ~59\nO 9I C ^ o 1 2 ~59\nO 9I C ^ o 1 2 ~59\nO 9I C ^ o 2 1NE ~bb 2 ~59\nO 9I C ^ o 2 1NE ~bb 2 ~59\nO 9I C ^ o 2 1NE ~bb 2 ~59\nO 9I C ^\nO 9I C ^ o 2 2 ~59 1Nr ~9J\nT 5k P = Qi 1 5l 2 2Oi 5l C ^ a 4 1LQ ~59 2 ~59 1L3 2Ps 1M0 2Pt\nT 5k P = Qj 1 5l 2 2Oj 5l C ^ a 4 1LQ ~59 2 ~59 1L3 2Pq 1M0 2Pr\nT Gz P = Qk 1 1qg 6 2Ok 1qg 5j 1jm Fp 5l C ^ a k 1WD GA 1LQ ~59 1KX GE 1L6 2Po 1WF 2Pp 1WG ~8P 1WH ~8O 1WI ~9J 1WJ ~9J 1WK ~8O 1WL 5j 1WM 5n 2 ~7d 2qr 2Ol 2qs 2Om 2qt 2On 2qu 2Oo 2qv 2Op 1LM 6f 24i 2Pp\nO 2Ok a 5 1Xa ~5j 2qw ~59 1Xb ~59 1N1 2Ok 1Xc ~5j\nO 2Ok a 5 1Xa ~5j 2qw ~59 1Xb ~59 1N1 2Ok 1Xc ~5j\nO 2Ok a 5 1Xa ~5j 2qw ~59 1Xb ~59 1N1 2Ok 1Xc ~5j\nO 2Ok a 5 1Xa ~5j 2qw ~59 1Xb ~59 1N1 2Ok 1Xc ~5j\nO 2Ok a 5 1Xa ~5j 2qw ~59 1Xb ~59 1N1 2Ok 1Xc ~5j\nT 5k P = Qq 1 5l 2 2Oq 5l C ^ a p 1LQ ~59 2 ~59 1On ~bb 2qr 2Ol 2qs 2Om 2qt 2On 2qu 2Oo 2qv 2Op 27g 2Oj 1L2 2P4 1MS 2P5 1N8 2P6 11W 2P7 29X 2P8 2qx 2P9 2qd 2Pa z5 2Pb 1L6 2Pc 1KY 2Pd 1L5 2Pe 10L 2Pf 2qy 2Pg 2qz 2Ph 2qA 2Pi 1TQ 2Pj\nT 5k P = Qr 1 5l 2 2Or 5l C ^ a g 1LQ ~59 2 ~59 1On ~bb 1L2 2OP Qt 2OQ 1Nc 2OR 1Wt 2OS 2qB 2OT 10L 2OU 1N8 2OV 1MT 2OW 1KY 2OX 2qC 2OY 2n 2OZ 1M0 2P0 1L5 ~7d\nT 5k P = Qs 1 5l 2 2Os 5l C ^ a n 1LQ ~59 2 ~59 1On ~bb 2qD 2Oq 2qE 2Or 27g 2Oj 1L2 2Ov 2qF 2Ow 2c0 2Ox 2qG 2Oy z5 2Oz 2qH 2OA 1L5 2OB 10L 2OC 2qI 2OD 268 2OE 2qJ 2OF 1MS 2OG 1N8 2OH 1KY 2OI 1L6 2OJ 2qK 2OK 2qL 2OL\nO 9I C ^ o 2 2 ~59 1Nr ~9J\nO 9I C ^ o 1 2 ~59\nO 9I C ^ o 3 1NE ~bb 2 ~59 1Nr ~9J\nO b0 F 2OO a 5 1LQ ~59 1 ~59 1MO ~59 2 ~59 RL ~9J\nO 9F o 2 2 ~7d 1Ns 2ON\nO 9F o 2 2 ~7d 1Ns 2OM\nO 9I C ^ o 2 2 ~59 1Nr ~9J\nO 9I C ^\nO 9I C ^\nO 9I C ^\nO 9I C ^ o 2 2 ~59 1Nr ~9J\nO 9I C ^ o 1 2 ~59\nO 9I C ^ o 1 2 ~59\nO 9I C ^\nO 9I C ^\nO 9I C ^\nO 9I C ^\nO 6v D ^\nO 6v D ^\nO 9I C q ya Qs 2qG\nO 9I C q ya Qs 2c0\nO 9I C q ya Qs 2qF o 2 2 ~59 1Nr ~9J\nO 9I C ^\nO 9F o 2 2 ~7d 1Ns 2P3\nO 9F o 2 2 ~7d 1Ns 2P2\nO 9F o 2 2 ~7d 1Ns 2P1\nO 9I C ^ o 1 2 ~59\nO 9I C ^\nO 9I C ^\nO 9I C ^\nO 9I C ^\nO 6v D ^\nO 6v D ^\nO 6l D ^\nO 9I C q ya Qr 1Wt\nO 9I C q ya Qr 1Nc\nO 9I C q ya Qr Qt\nO 9I C ^ o 1 1Nr ~9J\nO 9I C ^\nO 9I C ^\nO 9F o 2 2 ~7d 1Ns 2Pn\nO 9F o 2 2 ~7d 1Ns 2Pm\nO 9F o 2 2 ~7d 1Ns 2Pl\nO 9F o 2 2 ~7d 1Ns 2Pk\nO 9I C ^ o 2 2 ~59 1Nr ~9J\nO 9I C ^\nO 9I C ^\nO 9I C ^\nO 9I C ^\nO 6v D ^\nO 6v D ^\nO 6v D ^\nO 6v D ^\nO 9I C q ya Qq 2qd\nO 9I C q ya Qq 2qx\nO 9I C q ya Qq 29X\nO 9I C q ya Qq 11W\nO 9I C ^\nO 9I C q ya Qk 1KX\nO 6l D ^\nO 6l D ^\nO 6l D ^\nO 6l D ^\nO bz C t 1NP F 2Px\nO 9I C ^\nO 6l D ^\nO 9I C q ya PI 1KX o 2 1NB ~bb 1Nr ~9J\nO bz C t 1NP F 2PL\nO b0 F 2PK a 5 1LQ ~59 1 ~59 1MO ~59 2 ~7d RL ~9J\nO 9I C q tH PH 1Xn o 2 1NB ~bb 2 ~59\nO 9I C q tH PH 1KY o 2 1NB ~bb 2 ~59\nO 9I C q tH PH 1Xo o 2 1NB ~bb 2 ~59\nO 9I C q tH PH 1LP o 2 1NB ~bb 2 ~59\nO Jp\nO Jp\nO Jp\nO Jp\nO Jp\nO Jp\nO 9I C q tH PH 1Xm o 2 1NB ~bb 2 ~59\nO 9I C q 2qM PH 1KX o 1 2 ~59\nO bz C t 1NP F 2PP\nO 9I C ^\nO 6l D ^\nO 9I C q ya PC 1KX o 2 1NB ~bb 1Nr ~9J\nO bz C t 1NP F 2Q2\nO b0 F 2Q1 a 5 1LQ ~59 1 ~59 1MO ~59 2 ~7d RL ~9J\nO 9I C q tH PB 1Xn o 2 1NB ~bb 2 ~59\nO 9I C q tH PB 1KY o 2 1NB ~bb 2 ~59\nO 9I C q tH PB 1Xo o 2 1NB ~bb 2 ~59\nO 9I C q tH PB 1LP o 2 1NB ~bb 2 ~59\nO Jp\nO Jp\nO Jp\nO Jp\nO Jp\nO 9I C q tH PB 1Xm o 2 1NB ~bb 2 ~59\nO 9I C q 2qN PB 1KX o 1 2 ~59\nO bz C t 1NP F 2Qe\nO b0 F 2Qd a 5 1LQ ~59 1 ~59 1MO ~59 2 ~7d RL ~9J\nO 9I C q tH Pz 1Xn o 2 1NB ~bb 2 ~59\nO 9I C q tH Pz 1KY o 2 1NB ~bb 2 ~59\nO 9I C q tH Pz 1Xo o 2 1NB ~bb 2 ~59\nO 9I C q tH Pz 1LP o 2 1NB ~bb 2 ~59\nO Jp\nO Jp\nO Jp\nO Jp\nO 9I C q tH Pz 1Xm o 2 1NB ~bb 2 ~59\nO 9I C q 2qO Pz 1KX o 1 2 ~59\nO bz C t 1NP F 2Qq\nO b0 F 2Qp a 5 1LQ ~59 1 ~59 1MO ~59 2 ~7d RL ~9J\nO 9I C q tH Pr 1Xn o 2 1NB ~bb 2 ~59\nO 9I C q tH Pr 1KY o 2 1NB ~bb 2 ~59\nO 9I C q tH Pr 1Xo o 2 1NB ~bb 2 ~59\nO 9I C q tH Pr 1LP o 2 1NB ~bb 2 ~59\nO Jp\nO Jp\nO Jp\nO Jp\nO 9I C q tH Pr 1Xm o 2 1NB ~bb 2 ~59\nO 9I C q 2qP Pr 1KX o 1 2 ~59\nO bz C t 1NP F 2QF\nO b0 F 2QE a 5 1LQ ~59 1 ~59 1MO ~59 2 ~7d RL ~9J\nO 9I C q tH Pp 1Xn o 2 1NB ~bb 2 ~59\nO 9I C q tH Pp 1KY o 2 1NB ~bb 2 ~59\nO 9I C q tH Pp 1Xo o 2 1NB ~bb 2 ~59\nO 9I C q tH Pp 1LP o 2 1NB ~bb 2 ~59\nO Jp\nO Jp\nO Jp\nO Jp\nO Jp\nO Jp\nO Jp\nO 9I C q tH Pp 1Xm o 2 1NB ~bb 2 ~59\nO 9I C q 2qQ Pp 1KX o 1 2 ~59\nO bz C t 1NP F 2QQ\nO b0 F 2QP a 5 1LQ ~59 1 ~59 1MO ~59 2 ~7d RL ~9J\nO 9I C q tH Pn 1Xn o 2 1NB ~bb 2 ~59\nO 9I C q tH Pn 1KY o 2 1NB ~bb 2 ~59\nO 9I C q tH Pn 1Xo o 2 1NB ~bb 2 ~59\nO 9I C q tH Pn 1LP o 2 1NB ~bb 2 ~59\nO Jp\nO Jp\nO Jp\nO 9I C q tH Pn 1Xm o 2 1NB ~bb 2 ~59\nO 9I C q 2qR Pn 1KX o 1 2 ~59\nO 9I C ^\nO 9I C ^\nO 6l D ^\nO 6l D ^\nO 6l D ^\nT 5k P = n5 1 5l 2 2QW 5l C ^ a 7 1LQ ~59 2 ~59 2qS 2R0 2qT 2R1 2qU 2R2 1L3 2R3 1M0 2R4\nO 9I C ^\nO 9I C ^\nO 9I C ^\nO 9I C ^ o 1 2 ~59\nO 9I C ^ o 1 2 ~59\nO 9I C ^\nO 6l D ^\nO 6l D ^\nO 6l D ^\nO bz C t 1NP F 2Rh\nO b0 F 2Rg a 5 1LQ ~59 1 ~59 1MO ~59 2 ~7d RL ~9J\nO 9I C q tH 1C 1Xn o 2 1NB ~bb 2 ~59\nO 9I C q tH 1C 1KY o 2 1NB ~bb 2 ~59\nO 9I C q tH 1C 1Xo o 2 1NB ~bb 2 ~59\nO 9I C q tH 1C 1LP o 2 1NB ~bb 2 ~59\nO Jp\nO Jp\nO Jp\nO Jp\nO 9I C q tH 1C 1Xm o 2 1NB ~bb 2 ~59\nO 9I C q 2qV 1C 1KX o 1 2 ~59\nO 8N a 9 11W ~59 1M1 d6 1M2 ~59 1M3 2RM 1M4 ~7d 1M5 ~8O 1M6 ~8P 1M7 ~7d 1M8 ~8P o 1 1M9 ~7d\nO 9I C q Ms - 7a o 1 2 ~59\nO 9I C q Ms - 7j o 1 2 ~59\nO 9I C q Ms - 77 o 2 2 ~59 1Nr ~9J\nO 9I C q Ms - 7l o 2 1NE ~bb 2 ~59\nO 9I C q Mt - 8b o 3 1NE ~bb 2 ~59 1Nr ~9J\nO 9I C q Mt - 8o o 1 2 ~59\nO 9I C q Mt - 8c o 1 2 ~59\nO 9I C q Mt - 8q o 3 1NE ~bb 2 ~59 1Nr ~9J\nO 9I C o 1e o 1 2 ~59\nO 9I C ^ o 1 2 ~59\nO 9I C ^ o 1 2 ~59\nO 9I C ^ o 2 1NE ~bb 2 ~59\nO 9I C ^ o 2 1NE ~bb 2 ~59\nO 9I C ^ a 1 1NO 2RL o 1 1NB ~bb\nO 9I C ^ o 1 2 ~59\nO 9I C ^ o 1 2 ~59\nO 9I C ^ o 1 2 ~59\nT 5k P = Oj 1 58 3 2RA 58 5l C ^ a 4 1LQ ~59 2 ~59 1KZ 2RJ 1L1 2RK\nT hS P = Ok 1 1B7 3 2RB 1B7 5l C ^ a 9 1LQ ~59 2 ~59 2qW 2RC 2qX 2RD 1L2 2RE 1LU 2RF 1LV 2RG 1MQ ~i2 1P3 ~i3\nO bz C q Ob Ok 2qY F 2RI a 5 1LQ ~59 1 ~59 1MO ~59 2 ~7d RL ~9J\nO b0 F 2RH a 5 1LQ ~59 1 ~59 1MO ~59 2 ~59 RL ~9J\nO 9I C ^\nO 9I C ^\nO 9I C ^ o 1 2 ~59\nO 9I C q Ob Ok 2qX o 1 2 ~59\nO 9I C q Ob Ok 2qY\nO 9I C ^ o 1 2 ~59\nO 9I C ^ o 1 2 ~59\nO 9I C q Ob - Of\nO fx a 2 Ik ~59 1Oj ~59\nO kA a 2 11W ~59 NL ~59\nO 8N a 9 11W ~59 1M1 2RN 1M2 ~59 1M3 ~7d 1M4 ~7d 1M5 ~8O 1M6 ~8P 1M7 ~59 1M8 ~8P\nO LI C q 1Ay - 5x a 8 1cB ~8P 1TQ ~7d 1Wx Ll 1On ~7d 1Wy ~bb 1WA ~bb 1ZN ~8P 1LQ ~59\nT hS P = Mu 1 5l 2 2RQ 5l C o 2i a a 1LQ ~59 2 ~59 2qZ 2Se 2r0 2Sf NK 2Sg NF 2Sh 1L3 2Si 1M0 2Sj 1MQ ~i2 1P3 ~i3\nT LV P = Mv 1 LW 4 2RR LW LO 5l C o 2i a k 1LQ ~59 2 ~59 1PF 2RY 1PB 2RZ NJ 2S0 1Os 2S1 1PE 2S2 1PG 2S3 118 2S4 9E 2S5 11W 2S6 1L3 2S7 1M0 2S8 1WA ~bb 1Y6 ~8P 1MU 2S9 1L2 LS 1MQ ~i2 1P3 ~i3 1Y7 ~8P\nT hS P = Mw 1 2RQ 3 2RS 2RQ 5l C o 2i a 9 1LQ ~59 2 ~59 Nk 2RT 2qZ 2RU 2r0 2RV NK 2RW NF 2RX 1MQ ~i2 1P3 ~i3\nO 9I C ^ a 1 1Nz ~8P o 1 2 ~59\nO 9I C ^\nO 9I C ^\nO 9I C ^\nO 9I C ^\nO 9I C ^ a 1 1Nz ~8P o 1 2 ~59\nO 9I C ^ o 1 2 ~59\nO 9I C ^ o 2 1NE ~bb 2 ~59\nO 9I C ^ a 1 1Nz ~8P o 1 2 ~59\nO 9I C ^ a 1 1Nz ~8P o 1 2 ~59\nO 9I C ^ a 1 1Nz ~8P o 1 2 ~59\nO 9I C ^ o 1 2 ~59\nO 9I C ^ a 1 1Nz ~8P o 2 1NE ~bb 2 ~59\nO 2Sa a 1 2 ~59 o 1 1Ns 2Sb\nO 6l D ^\nO 6l D ^\nO 9I C q 1Ay 1Yt 1Yu o 1 1NB ~bb\nT 5k P = m1 1 9F 3 2Sa 9F 5l C ^ a 5 1LQ ~59 2 ~59 1Nz ~8P 1L3 2Sc 1M0 2Sd\nO 9I C q O6 Mv 11W o 1 2 ~59\nO 6l D ^ I k ~9J\nO 6l D ^ I k ~7d\nO 9I C ^ a 1 1Nz ~8P o 1 2 ~59\nO 9I C ^ a 1 1Nz ~8P o 1 2 ~59\nO 9I C ^ a 1 1Nz ~8P o 1 2 ~59\nO 9I C ^ a 1 1Nz ~8P o 1 2 ~59\nO 6l D ^\nO 6l D ^\nO kA a 2 11W ~59 NL ~59\nO 8N a 9 11W ~59 1M1 2Sk 1M2 ~59 1M3 ~7d 1M4 ~7d 1M5 ~8O 1M6 ~8P 1M7 ~59 1M8 ~8P\nO LI C q 1Ay - 5x a 8 1cB ~8P 1TQ ~7d 1Wx Ll 1On ~7d 1Wy ~bb 1WA ~bb 1ZN ~8P 1LQ ~59\nO 9I C ^\nO 9I C ^ o 1 2 ~59\nO 9I C o 2h a 1 1NO 2SC o 2 1NB ~bb 2 ~59\nO 9I C o 2h a 1 1NO 2SB o 2 1NB ~bb 2 ~59\nO 9I C o 2h a 1 1NO 2SA o 2 1NB ~bb 2 ~59\nO 9I C o 2h a 1 1NO 2Sz o 2 1NB ~bb 2 ~59\nO 9I C o 2h a 1 1NO 2Sy o 2 1NB ~bb 2 ~59\nO 9I C o 2h a 1 1NO 2Sx o 2 1NB ~bb 2 ~59\nO 9I C o 2h a 1 1NO 2Sw o 2 1NB ~bb 2 ~59\nO 9I C q O0 - NL o 1 2 ~59\nO 9I C q O0 - NK o 1 2 ~59\nO 9I C q O0 - NF o 1 2 ~59\nO 9I C q O0 - NJ o 2 1NE ~bb 2 ~59\nO 9I C q O0 - NI o 2 1NE ~bb 2 ~59\nO 9I C q O0 - NH o 1 2 ~59\nO 9I C q O0 - NG o 1 2 ~59\nO kA a 2 11W ~59 NL ~59\nO 8N a 9 11W ~59 1M1 2SD 1M2 ~59 1M3 ~7d 1M4 ~7d 1M5 ~8O 1M6 ~8P 1M7 ~59 1M8 ~8P\nO 9I C ^ o 1 2 ~59\nO 9I C o 2g o 1 2 ~59\nO 9I C ^ o 1 2 ~59\nO 9I C ^\nO 9I C ^ o 1 2 ~59\nO 9I C ^ o 1 2 ~59\nO 9I C ^ a 1 1NO 2SV o 1 1NB ~bb\nO 9I C o 2g a 5 2Y 2SP S3 2SQ S7 ~WI 2aK 2SR 1NO 2SS o 2 1NB ~bb 2 ~59\nO 9I C ^ a 1 1NO 2SO o 2 1NB ~bb 2 ~59\nO 9I C q NT - m8 o 1 2 ~59\nO 9I C q vw 2g2 2Y o 3 1NB ~bb 1NE ~bb 2 ~59\nO 9I C q vw 2g2 S3 o 2 1NB ~bb 2 ~59\nO WO C q 3J 4x 1Nj F B4 S 2ST\nO 9I C q NT - NC o 1 2 ~59\nO zh a 5 1Rq ~9J 21s 2SU 21t ~8O 21u ~ns 2g3 ~8P o 1 1M0 ~z7\nO 9I C q uY 2g4 12r o 1 1NE ~bb\nO 9I C q NT - NZ o 2 1NE ~bb 1Nr ~9J\nO kA a 2 11W ~59 NL ~59\nO 8N a 9 11W ~59 1M1 2SW 1M2 ~59 1M3 ~7d 1M4 ~7d 1M5 ~8O 1M6 ~8P 1M7 ~59 1M8 ~8P\nT 5k P = NO 1 5l 2 2SY 5l C ^ a 6 1LQ ~59 2 ~59 1L2 2TG us 2TH 1L3 2TI 1M0 2TJ\nT 5k P = NP 1 5l 2 2SZ 5l C ^ a 6 1LQ ~59 2 ~59 1L2 2TC NV 2TD 1L3 2TE 1M0 2TF\nO 9I C ^ o 1 1NE ~bb\nT 5k P = NR 1 5l 2 2T1 5l C ^ a c 1LQ ~59 2 ~59 2r1 2T2 2r2 2T3 2r3 2T4 1L2 2T5 2r4 2T6 2r5 2T7 us 2T8 Nk 2T9 1L3 2Ta 1M0 2Tb\nT LV P 2r1 2r6 1 2RR 5 2T2 2RR LW LO 5l C ^ a e 1LQ ~59 2 ~59 1L2 2Tu 1PF 2Tv 1PE 2Tw 1Os 2Tw 1PG 2Tx 11W 2Ty 9E 2Tz 1WA ~bb 1Y6 ~8P 1MU 2TA 1MQ ~i2 1P3 ~i3\nT LV P 2r2 2r7 1 2RR 5 2T3 2RR LW LO 5l C ^ a e 1LQ ~59 2 ~59 1L2 2Tl 1PF 2Tm 1PE 2Tn 1Os 2To 1PG 2Tp 11W 2Tq 9E 2Tr 1WA ~bb 1Y6 ~8P 1MU 2Ts 1MQ ~i2 1P3 ~i3\nT LV P 2r3 2r8 1 2RR 5 2T4 2RR LW LO 5l C ^ a e 1LQ ~59 2 ~59 1L2 2Td 1PF 2Te 1PE 2Tf 1Os 2Tf 1PG 2Tg 11W 2Th 9E 2Ti 1WA ~bb 1Y6 ~8P 1MU 2Tj 1MQ ~i2 1P3 ~i3\nO 9I C ^\nO 9F o 2 2 ~7d 1Ns 2Tc\nO 9I C ^ o 1 2 ~59\nO 9I C ^\nO 9I C ^\nO 6l D ^\nO 6l D ^\nO 9I C q NN NR 2r4\nO 9I C ^\nO 9I C ^\nO 9I C ^\nO 9I C ^\nO 9F o 2 2 ~7d 1Ns 2Tk\nO 9I C ^ o 1 1NE ~bb\nO 9I C q 1Ay 1Yt 1Yu o 1 1NB ~bb\nO 9I C q NN 2r8 11W\nO 9I C ^\nO 9I C ^\nO 9I C ^\nO 9I C ^\nO 9I C ^\nO 9F o 2 2 ~7d 1Ns 2Tt\nO 9I C ^ o 1 1NE ~bb\nO 9I C q 1Ay 1Yt 1Yu o 1 1NB ~bb\nO 9I C q NN 2r7 11W\nO 9I C ^\nO 9I C ^\nO 9I C ^\nO 9I C ^\nO 9F o 2 2 ~7d 1Ns 2TB\nO 9I C ^ o 1 1NE ~bb\nO 9I C q 1Ay 1Yt 1Yu o 1 1NB ~bb\nO 9I C q NN 2r6 11W\nO 9I C ^\nO 9I C ^\nO 6l D ^\nO 6l D ^\nO 9I C ^ o 1 1NE ~bb\nO 9I C ^\nO 6l D ^\nO 6l D ^\nO kA a 2 11W ~59 NL ~59\nO 8N a 9 11W ~59 1M1 2TK 1M2 ~59 1M3 ~7d 1M4 ~8O 1M5 ~8O 1M6 ~8P 1M7 ~59 1M8 ~8P\nO kA a 2 11W ~59 NL ~59\nO 8N a 9 11W ~59 1M1 2TM 1M2 ~59 1M3 ~7d 1M4 ~7d 1M5 ~8O 1M6 ~8P 1M7 ~59 1M8 ~8P\nO 9I C o 2a o 2 1NE ~bb 2 ~59\nT 5k P = Nq 1 59 3 2TP 59 5l C o 2d a e 1LQ ~59 2 ~59 10J 2TQ 10O 2TR 10L 2TS 10M 2TT 1L5 2TU 11b 2TV 2r9 2TW 1Lj 2TX cc 2TY 10k 2TZ 1L3 2U0 1M0 2U1\nO 9I C ^\nO 9I C ^\nO 9I C ^\nO 9I C ^\nO 9I C ^\nO 9I C ^ o 1 1NB ~bb\nO 9I C ^ o 1 2 ~59\nO 9I C q Ns 2ra 2rb a 1 1XD 2U2 o 1 1NB ~bb\nO 9I C ^\nO 9I C ^ o 1 1NE ~bb\nO 6l D ^\nO 6l D ^\nO 9I C q Ns 2ra 1XF\nO kA a 2 11W ~59 NL ~59\nO 8N a 9 11W ~59 1M1 2U3 1M2 ~59 1M3 ~7d 1M4 ~7d 1M5 ~8O 1M6 ~8P 1M7 ~59 1M8 ~8P\nO Lw a 6 1 ~59 1Y9 ~8P 1Ya ~8P 1Yb ~7d 1Yc ~bb 1LQ ~59\nT LV P = MU 1 LW 4 2U6 LW LO 5l C o 2c a g 1LQ ~59 1L9 2Uf 11b 2Ug 11d 2Uh 1L7 2Ui 2rc 2Uj Tr 2Uk 1L3 2Ul 1M0 2Um 2 ~7d 1WA ~bb 1Y6 ~8P 1MU 2Un 1L2 LS 1MQ ~i2 1P3 ~i3\nT LV P = MV 1 LW 4 2U7 LW LO 5l C o 2c a e 1LQ ~59 2 ~59 1PG 2U8 118 2U9 1Ng 2Ua NJ 2Ub 1L3 2Uc 1M0 2Ud 1WA ~bb 1Y6 ~8P 1MU 2Ue 1L2 LS 1MQ ~i2 1P3 ~i3\nO 9I C ^\nO 9I C ^\nO 9I C ^\nO 9I C ^\nO 6l D ^\nO 6l D ^\nO 9I C q 1Ay 1Yt 1Yu o 1 1NB ~bb\nO 9I C ^\nO 9I C ^\nO 9I C ^\nO 9I C ^\nO 9I C ^ o 2 1NE ~bb 2 ~59\nO 9F o 1 1Ns 2Uo\nO 6l D ^\nO 6l D ^\nO 9I C q 1Ay 1Yt 1Yu o 1 1NB ~bb\nO 9I C q Nu MU Tr o 1 2 ~59\nO kA a 2 11W ~59 NL ~59\nO 8N a 9 11W ~59 1M1 2Up 1M2 ~59 1M3 ~7d 1M4 ~7d 1M5 ~8O 1M6 ~8P 1M7 ~59 1M8 ~8P\nO 9I C o 2b o 2 1NE ~bb 2 ~59\nO 9I C o 2b o 2 1NE ~bb 2 ~59\nO kA a 2 11W ~59 NL ~59\nO 8N a 9 11W ~59 1M1 2Ut 1M2 ~59 1M3 ~7d 1M4 ~7d 1M5 ~8O 1M6 ~8P 1M7 ~59 1M8 ~8P\nO 9I C o 2a o 1 2 ~59\nO kA a 2 11W ~59 NL ~59\nO 8N a 9 11W ~59 1M1 2Uw 1M2 ~59 1M3 ~7d 1M4 ~7d 1M5 ~8O 1M6 ~8P 1M7 ~59 1M8 ~8P\nT 5k P = MN 1 KQ 4 2Uy KQ 9J 5l C o 29 a 6 1LQ ~59 2 ~59 1XA 2UO Js 2UP 1L3 2UQ 1M0 2UR\nT 5k P = MO 1 2UA 4 2Uz 2UA bb 5l C o 29 a 4 1LQ ~59 mT 2UB 1L3 2UC 2 ~7d o 1 2 ~7d\nT 5k P = MO 1 bb 3 2UA bb 5l C q Nr - MO a e 2 ~59 1On ~bb 1Xk ~bb 1Xl ~9J 1KX 2UE 1Xm 2UF 1Xn 2UG 1KY 2UH 1Xo 2UI 1LP 2UJ 1Xp ~bb 11W 2UK 1TK 2UL 1LQ ~59\nO b0 F 2UD a 5 1LQ ~59 1 ~59 1MO ~59 2 ~7d RL ~9J\nO 6l D ^\nO 9I C q Nr MO mT\nO bz C t 1NP F 2UN\nO b0 F 2UM a 5 1LQ ~59 1 ~59 1MO ~59 2 ~7d RL ~9J\nO 9I C q tH MO 1Xn o 2 1NB ~bb 2 ~59\nO 9I C q tH MO 1KY o 2 1NB ~bb 2 ~59\nO 9I C q tH MO 1Xo o 2 1NB ~bb 2 ~59\nO 9I C q tH MO 1LP o 2 1NB ~bb 2 ~59\nO Jp\nO Jp\nO 9I C q tH MO 1Xm o 2 1NB ~bb 2 ~59\nO 9I C q 2rd MO 1KX o 1 2 ~59\nO 9I C ^ o 1 1NB ~bb\nO 9I C ^\nO 6l D ^\nO 6l D ^\nO kA a 2 11W ~59 NL ~59\nO 8N a 9 11W ~59 1M1 2US 1M2 ~59 1M3 ~7d 1M4 ~7d 1M5 ~8O 1M6 ~8P 1M7 ~59 1M8 ~8P\nT 5k P = D2 1 2UV 3 2UU 2UV 5l C ^ a 8 1LQ ~59 2re ~ns 1KX 2UW 1L2 2UX 1L7 2UY 2rf 2UZ Tr 2V0 2 ~7d o 1 2 ~7d\nT 5k P = D2 1 5l 2 2UV 5l C ^ a O 1LQ ~59 2 ~59 1L2 2V3 1L6 2V4 2rg 2V5 1NS 2V6 2rh 2V7 2ri 2V8 2rj 2V9 2rk 2Va 2rl 2Vb 2rm 2Vc 2rn 2Vd 2ro 2Ve 2rp 2Vf 1L9 2Vg 11d 2Vh 11e 2Vi 11c 2Vj 11b 2Vk 1L7 2Vl 1NI 2Vm 1NK 2Vn 1NJ 2Vo 1NF 2Vp 2rq 2Vq 2rr 2Vr 2rc 2Vs 2rs 2Vt 2rt 2Vu 2ru 2Vv 2rv 2Vw 2rw 2Vx 2rx 2Vy 2ry 2Vz 2rz 2VA 2rA 2VB 2rB 2VC 2rC 2VD 2rD 2VE 2rE 2VF 1NU 2VG 2rF 2VH 2rG 2VI 2rH 2VJ 2rI 2VK 2rJ 2VL n4 2VM 1L3 2VN 1M0 2VO\nO bz C t 1NP F 2V2\nO 9I C ^\nO 9I C ^ o 1 1NB ~bb\nO 9I C ^\nO 9F o 1 1Ns 2V1\nO 9I C q Np D2 Tr o 1 2 ~59\nO 9I C q Np D2 1KX o 1 1NB ~bb\nO 9I C ^ o 1 1NE ~bb\nO 9I C ^ o 1 2 ~59\nO 9I C ^ o 2 1NE ~bb 2 ~59\nO 9I C ^ o 1 2 ~59\nO 9I C ^ o 2 1NE ~bb 2 ~59\nO 9I C ^ o 1 2 ~59\nO 9I C ^\nO 9I C ^\nO 9I C ^ o 1 2 ~59\nO 9I C ^ o 2 1NE ~bb 2 ~59\nO 9I C ^ o 2 1NE ~bb 2 ~59\nO 9I C ^ o 1 2 ~59\nO 9I C ^ o 1 2 ~59\nO 9I C ^ o 1 2 ~59\nO 9I C ^ o 1 2 ~59\nO 9I C ^ o 1 2 ~59\nO 9I C ^ o 1 2 ~59\nO 9I C ^\nO 9I C ^\nO 9I C ^ o 1 2 ~59\nO 9I C ^ o 1 2 ~59\nO 9I C ^ o 1 2 ~59\nO 9I C ^ o 2 1NE ~bb 2 ~59\nO 9I C ^ o 1 2 ~59\nO 9I C ^ o 1 2 ~59\nO 9I C ^ o 2 1NE ~bb 2 ~59\nO 9I C ^ o 1 2 ~59\nO 9I C ^ o 1 2 ~59\nO 9I C ^ o 1 2 ~59\nO 9I C ^ o 1 2 ~59\nO 9I C ^ o 1 2 ~59\nO 9I C ^ o 1 2 ~59\nO 9I C ^ o 1 2 ~59\nO 9I C ^\nO 9I C ^ o 2 1NE ~bb 2 ~59\nO 9I C ^ o 2 1NE ~bb 2 ~59\nO 9I C ^ o 2 1NE ~bb 2 ~59\nO 9I C ^ o 2 1NE ~bb 2 ~59\nO 9I C ^ o 2 1NE ~bb 2 ~59\nO 9I C ^ o 2 1NE ~bb 2 ~59\nO 9I C ^ o 2 1NE ~bb 2 ~59\nO 9I C ^ o 1 2 ~59\nO 9I C ^ o 2 1NE ~bb 2 ~59\nO 9I C ^ o 2 1NE ~bb 2 ~59\nO 9I C ^ o 1 2 ~59\nO 9I C ^ o 1 2 ~59\nO 6l D ^\nO 6l D ^\nO kA a 2 11W ~59 NL ~59\nO 8N a 9 11W ~59 1M1 2VP 1M2 ~59 1M3 ~7d 1M4 ~8O 1M5 ~8O 1M6 ~8P 1M7 ~59 1M8 ~8P\nO 9I C ^ o 2 1NE ~bb 2 ~59\nT 5k P = MY 1 2YW 6 2VS 2YW fo 8r 8s 5l C ^ a 5 1LQ ~59 2 ~59 1L6 2YX 11W 2YY 1M0 2YZ\nT 5k P = MZ 1 5l 2 2VT 5l C ^ a 8 1LQ ~59 2 ~59 2rK ~59 2rL 2YO 13k 2YP 2rM 2YQ 1L3 2YR 1M0 2YS\nT 5k P = N0 1 5l 2 2VU 5l C ^ a 6 1LQ ~59 2 ~59 1cc 2YK 11d 2YL 1L3 2YM 1M0 2YN\nT 5k P = N1 1 2VU 3 2VV 2VU 5l C ^ a j 1LQ ~59 RL ~9J 2 ~59 2t ~oB WU ~7d 1L2 2Yt d2 2Yu 1KW 2Yv 2rN 2Yw 2rO 2Yx 2rP 2Yy 1L7 2Yz 2rQ 2YA 1HQ 2YB 10J 2YC 10L 2YD 1L0 2YE 1KY 2YF 1L5 2YG\nT 5k P = N2 1 8O 3 2VW 8O 5l C ^ a i 1LQ ~59 2 ~59 1On ~bb 1cc 2Yf 2rR 2Yg 11e 2Yh 11c 2Yi 1Nk 2Yj 1No 2Yk 1Nm 2Yl 1Nn 2Ym 12r 2Yn 11f 2Yo 1Nl 2Yp 1Np 2Yq 10R 2Yr 10L 2Ys 1L5 ~7d\nT 5k P = N3 1 2VW 4 2VX 2VW 8O 5l C ^ a 9 1LQ ~59 2 ~59 1On ~bb 11d 2Y5 1lt 2Y6 2nV 2Y7 1RH 2Y8 2rS 2Y9 2rT 2Ya\nT 5k P = N4 1 5l 2 2VY 5l C ^ a b 1LQ ~59 2 ~59 1cc 2XW 11d 2XX 1NF 2XY 1L7 2XZ 11b 2Y0 1NI 2Y1 1NK 2Y2 1L3 2Y3 1M0 2Y4\nT 5k P = N5 1 9J 4 2VZ 2VY 9J 5l C ^ a 9 1LQ ~59 2 ~59 d2 2XL 2rU 2XM 1RH 2XN 2nV 2XO 1lt 2XP 1L3 2XQ 1M0 2XR\nT 5k P = N6 1 2d0 4 2W0 2d0 2cZ 5l C ^ a 7 1LQ ~59 2 ~59 NJ 2XG NH 2XH 2rV 2XI 1L3 2XJ 1M0 2XK\nT 5k P = N7 1 5l 2 2W1 5l C ^ a 6 1LQ ~59 1L2 2XC 1KY 2XD 1L3 2XE 1M0 2XF 2 ~7d o 1 2 ~7d\nT 5k P = N8 1 5l 2 2W2 5l C ^ a n 1LQ ~59 2 ~59 NJ 2X4 2rW 2X5 2rX 2X6 2rY 2X7 2rZ 2X8 2s0 2X9 Mo 2Xa 11W 2Xb 2s1 2Xc Nh 2Xd Nj 2Xe Nk 2Xf 2s2 2Xg 2s3 2Xh Nl 2Xi 2s4 2Xj 2s5 2Xk 2s6 2Xl 2s7 2Xm 1L3 2Xn 1M0 2Xo\nT hS P = N9 1 1B6 3 2W3 1B6 5l C ^ a 6 1LQ ~59 2 ~59 4R 2WX 2s8 2WY 1MQ ~i2 1P3 ~i3\nT 5k P = Na 1 5l 2 2W4 5l C ^ a c 1LQ ~59 2 ~59 1KX 2WJ 1L2 2WK 1PG 2WL 2bg 2WM 2s9 2WN 1dm 2WO 2sa 2WP 30 2WQ 1L3 2WR 1M0 2WS\nT 5k P = Nb 1 5l 2 2W5 5l C ^ a 6 1LQ ~59 1L2 2WF 1dm 2WG 1L3 2WH 1M0 2WI 2 ~7d o 1 2 ~7d\nT 5k P = Nc 1 5l 2 2W6 5l C ^ a a 1LQ ~59 2 ~59 29f ~7d 2sb ~7d 1L2 2Wx UA 2Wy 2sc 2Wz 1Mf 2WA 1L3 2WB 1M0 2WC\nT hS P = Nd 1 2W3 4 2W7 2W3 1B6 5l C ^ a 7 1LQ ~59 2s8 2Wr 2sd 2Ws Mg 2Wt 2 ~7d 1MQ ~i2 1P3 ~i3\nT 5k P = Ne 1 2W2 3 2W8 2W2 5l C ^ a 7 1LQ ~59 1L2 2Wk NJ 2Wl 2rW 2Wm 2s1 2Wn 2se 2Wo 2 ~7d o 1 2 ~7d\nO 9I C ^ o 1 2 ~59\nO 9I C ^ o 1 2 ~59\nO 9I C ^ o 1 2 ~59\nO 9I C ^ o 1 2 ~59\nO 1CZ C t 2sf o 1 1Ws 2Ur\nO 9I C ^ o 1 2 ~59\nO 9I C ^ o 1 2 ~59\nO 9I C ^ o 1 2 ~59\nO 9I C ^ o 1 2 ~59\nO 9I C ^\nO 9I C ^\nO 9I C ^ o 1 2 ~59\nO 9I C ^ o 1 2 ~59\nO 9I C ^\nO 9F o 1 1Ns 2Wq\nO bz C ^ F 2Wp a 5 1LQ ~59 1 ~59 1MO ~59 2 ~59 RL ~9J\nO 9I C q MG Ne 2se o 1 2 ~59\nO 9I C q MG Ne 2s1 o 2 1NB ~bb 2 ~59\nO b0 F 2Ww a 5 1LQ ~59 1 ~59 1MO ~59 2 ~59 RL ~9J\nO b0 F 2Wv a 5 1LQ ~59 1 ~59 1MO ~59 2 ~59 RL ~9J\nO b0 F 2Wu a 5 1LQ ~59 1 ~59 1MO ~59 2 ~7d RL ~9J\nO 9I C q MG Nd Mg\nO 9I C q MG Nd 2sd o 1 2 ~59\nO 9I C q MG Nd 2s8 o 2 1NE ~bb 2 ~59\nO 9I C ^\nO bz C ^ F 2WE a 5 1LQ ~59 1 ~59 1MO ~59 2 ~59 RL ~9J\nO bz C ^ F 2WD a 5 1LQ ~59 1 ~59 1MO ~59 2 ~59 RL ~9J\nO 9I C ^\nO 6l D ^\nO 6l D ^\nO 9I C q MG Nc 2sc o 1 2 ~59\nO 9I C q MG Nc UA o 1 2 ~59\nO 9I C ^\nO 9I C ^\nO 6l D ^\nO 6l D ^\nO IO C ^ a 7 1Xz 2WV 1LQ ~59 1 ~59 1MO ~59 2 ~7d RL ~9J 1NO 2WW\nO 9I C ^\nO 9I C ^\nO 9I C ^\nO 9I C ^\nO 9I C ^\nO 9F o 2 2 ~7d 1Ns 2WU\nO 9I C q Ns 2ra 2rb a 1 1XD 2WT o 1 1NB ~bb\nO 6l D ^\nO 6l D ^\nO 9I C q Ns 2ra 1XF\nO 9I C q MG Na 2sa\nO 9I C q vw 1XG 1XF o 1 1NB ~bb\nO 9I C q MG Na 1KX o 1 1NB ~bb\nT 5k P 4R 2sg 1 5l 2 2WX 5l C ^ a 7 1LQ ~59 2 ~59 11W ~7d 1L2 2WZ NL 2X0 1L3 2X1 1M0 2X2\nO 9I C ^ a 1 1Nz ~8P o 2 1NE ~bb 2 ~59\nO 9I C ^\nO 9F o 1 1Ns 2X3\nO 6l D ^\nO 6l D ^\nO 9I C q MG 2sg NL o 1 2 ~59\nO 9I C ^ a 1 1Nz ~8P o 1 2 ~59\nO 9I C ^ a 1 1Nz ~8P o 1 2 ~59\nO b0 F 2XB a 5 1LQ ~59 1 ~59 1MO ~59 2 ~59 RL ~9J\nO b0 F 2XA a 5 1LQ ~59 1 ~59 1MO ~59 2 ~59 RL ~9J\nO bz C ^ F 2Xz a 5 1LQ ~59 1 ~59 1MO ~59 2 ~59 RL ~9J\nO bz C ^ F 2Xy a 5 1LQ ~59 1 ~59 1MO ~59 2 ~59 RL ~9J\nO 9F o 1 1Ns 2Xx\nO 9F o 1 1Ns 2Xw\nO 9F o 1 1Ns 2Xv\nO 9F o 1 1Ns 2Xu\nO 9F o 2 2 ~7d 1Ns 2Xt\nO 9F o 1 1Ns 2Xs\nO 9I C ^ o 1 2 ~59\nO 9I C ^ o 1 2 ~59\nO 9F o 1 1Ns 2Xr\nO 9I C ^\nO 9I C ^\nO b0 F 2Xq a 5 1LQ ~59 1 ~59 1MO ~59 2 ~7d RL ~9J\nO bz C ^ F 2Xp a 5 1LQ ~59 1 ~59 1MO ~59 2 ~59 RL ~9J\nO 6l D ^\nO 6l D ^\nO 9I C q MG N8 2s7 o 1 2 ~59\nO 9I C q MG N8 2s6\nO 9I C q MG N8 Nl o 1 2 ~59\nO 9I C q MG N8 Nk o 1 2 ~59\nO 9I C q MG N8 Nj\nO 9I C q MG N8 Nh o 1 2 ~59\nO 9I C q MG N8 2s1 o 1 2 ~59\nO 9I C q MG N8 11W o 1 2 ~59\nO 9I C q MG N8 Mo o 1 2 ~59\nO 9I C q MG N8 2s0 o 1 2 ~59\nO 9I C q MG N8 2rZ o 1 2 ~59\nO 9I C q MG N8 2rY o 1 2 ~59\nO 9I C q MG N8 2rX o 1 2 ~59\nO 9I C ^\nO 9I C ^\nO 6l D ^\nO 6l D ^\nO 9I C ^ o 1 1NE ~bb\nO 9I C ^\nO 9I C ^ o 1 2 ~59\nO 6l D ^\nO 6l D ^\nO b0 F 2XV a 5 1LQ ~59 1 ~59 1MO ~59 2 ~7d RL ~9J\nO 9F o 1 1Ns 2XU\nO 9F o 2 2 ~7d 1Ns 2XT\nO 9F o 1 1Ns 2XS\nO 9I C ^\nO 6l D ^\nO 6l D ^\nO 9I C q MG N5 2nV o 1 2 ~59\nO 9I C q MG N5 1RH\nO 9I C q MG N5 2rU o 2 1NB ~bb 2 ~59\nO 9I C q MG N5 d2\nO 1CZ C t 2sf\nO 9I C ^ o 1 1NB ~bb\nO 9I C ^ o 2 1NB ~bb 1NE ~bb\nO 9I C ^ o 1 1NB ~bb\nO 9I C ^ o 1 1NB ~bb\nO 9I C ^ o 1 1NB ~bb\nO 9I C ^ o 1 1NB ~bb\nO 6l D ^\nO 6l D ^\nO 9I C ^ o 2 1NB ~bb 2 ~59\nO 9I C ^ o 1 2 ~59\nO 9F o 1 1Ns 2Ye\nO 9F o 1 1Ns 2Yd\nO b0 F 2Yc a 5 1LQ ~59 1 ~59 1MO ~59 2 ~7d RL ~9J\nO bz C ^ F 2Yb a 5 1LQ ~59 1 ~59 1MO ~59 2 ~7d RL ~9J\nO 9I C q MG N3 2rT\nO 9I C q MG N3 2rS\nO 9I C q MG N3 1RH o 1 2 ~59\nO 9I C q MG N3 2nV o 1 2 ~59\nO 1CZ C t 2sf\nO 9I C ^ o 1 1NB ~bb\nO 9I C q MG 2sh 2si o 1 1NB ~bb\nO 9I C q MG 2sh 2si o 1 1NB ~bb\nO 9I C q MG 2sh 2si o 1 1NB ~bb\nO 9I C q MG 2sh 2si o 1 1NB ~bb\nO 9I C q MG 2sh 2si o 1 1NB ~bb\nO 9I C q MG 2sh 2si o 1 1NB ~bb\nO 9I C q MG 2sh 2si o 1 1NB ~bb\nO 9I C q MG 2sh 2si o 1 1NB ~bb\nO 9I C q MG 2sh 2si o 1 1NB ~bb\nO 9I C q MG 2sh 2si o 1 1NB ~bb\nO 9I C ^\nO 9I C ^\nO 9I C ^\nO 9I C ^ o 1 2 ~59\nO 9F o 2 2 ~7d 1Ns 2YJ\nO 9F o 2 2 ~7d 1Ns 2YI\nO 9F o 2 2 ~7d 1Ns 2YH\nO 9I C ^\nO 9I C ^ o 1 2 ~59\nO 9I C ^ o 1 2 ~59\nO 9I C ^\nO 9I C ^\nO 9I C ^\nO 9I C ^\nO 9I C ^\nO 9I C ^\nO 9I C q MG N1 2rO\nO 9I C q MG N1 2rN\nO 9I C q MG N1 1KW\nO 1CZ C t 2sf\nO 9I C ^\nO 6l D ^\nO 6l D ^\nO b0 F 2YV a 5 1LQ ~59 1 ~59 1MO ~59 2 ~7d RL ~9J\nO bz C ^ F 2YU a 5 1LQ ~59 1 ~59 1MO ~59 2 ~7d RL ~9J\nO bz C ^ F 2YT a 5 1LQ ~59 1 ~59 1MO ~59 2 ~7d RL ~9J\nO 6l D ^\nO 6l D ^\nO 9I C q MG MZ 2rM\nO 9I C q MG MZ 13k o 1 1NE ~bb\nO 9I C q MG MZ 2rL\nT 5k P = qU 0 fo 5 2YW fo 8r 8s 5l C ^ a 2 1L2 2Z1 2 ~59\nO 9I C ^\nO 9F o 2 2 ~7d 1Ns 2Z0\nO 6l D ^\nO 9I C q MG MY 11W\nO 6R C d D ^\nO 8N a 9 11W ~59 1M1 d6 1M2 ~59 1M3 30b 1M4 ~7d 1M5 ~8O 1M6 ~8P 1M7 ~7d 1M8 ~8P o 1 1M9 ~7d\nT 5k P = 8r 1 5l 2 2Z3 5l C q Mt - 8r a b 1LQ ~59 2 ~59 2sj ~59 2sk ~59 2sl ~8P 2sm 301 2sn 302 Oe 303 1LT 304 1L3 305 1M0 306\nT 5k P = 8B 1 5l 2 2Z4 5l C q Mt - 8B a c 1LQ ~59 2 ~59 Mg 2ZJ 2so 2ZK 2sp 2ZL 2sq 2ZM 19v 2ZN Oe 2ZO 1LT 2ZP 2s8 2ZQ 1L3 2ZR 1M0 2ZS\nT 5k P = 8C 1 5l 2 2Z5 5l C q Mt - 8C a d 1LQ ~59 2 ~59 1L2 2Zx Mg 2Zy 1LT 2Zz Mh 2ZA 19v 2ZB Oe 2ZC 2sr 2ZD 2ss 2ZE 1KY 2ZF 1L3 2ZG 1M0 2ZH\nT 5k P = 8w 1 kB 4 2Z6 kB e1 5l C q Mt - 8w a 4 1LQ ~59 2 ~59 1LW 2Zv 1LX 2Zw\nT 5k P = 8x 1 kB 4 2Z7 kB e1 5l C q Mt - 8x a b 1LQ ~59 2 ~59 1L2 2Zm 10L 2Zn 1L5 2Zo 1LU 2Zp 1LV 2Zq 1LY 2Zr 1LW 2Zs 1LX 2Zt 1NU 2Zu\nT 5k P = 8z 1 5l 2 2Z8 5l C q Mt - 8z a d 1LQ ~59 1L2 2Za 1LS 2Zb 1LY 2Zc 1LX 2Zd 1LW 2Ze 1LU 2Zf 1LV 2Zg 1LZ 2Zh NV 2Zi 1L3 2Zj 1M0 2Zk 2 ~7d o 1 2 ~7d\nO 9I C ^ o 1 2 ~59\nO 9I C ^\nO bz C ^ F 2Zl a 5 1LQ ~59 1 ~59 1MO ~59 2 ~59 RL ~9J\nO 9I C ^\nO 9I C ^\nO 9I C ^\nO 9I C ^ o 1 2 ~59\nO 9I C ^\nO 9I C ^ o 1 2 ~59\nO 9I C ^\nO 6l D ^\nO 6l D ^\nO 9I C q Mt 8z 1LS o 1 2 ~59\nO 9I C ^\nO 9I C ^\nO 9I C ^\nO 9I C ^ o 1 2 ~59\nO 9I C ^ o 1 2 ~59\nO 9I C ^ o 1 2 ~59\nO 9I C ^ o 1 2 ~59\nO 9I C ^ o 1 2 ~59\nO 9I C ^ o 3 1NB ~bb 1NE ~bb 2 ~59\nO 9I C ^\nO 9I C ^ o 1 2 ~59\nO 9I C ^ o 1 2 ~59\nO 9I C ^ o 1 2 ~59\nO 9I C q Mt - 8h o 1 2 ~59\nO 9I C ^ o 1 2 ~59\nO 9I C ^\nO 9I C ^ o 2 1NE ~bb 2 ~59\nO 9I C ^ o 1 2 ~59\nO b0 F 2ZI a 5 1LQ ~59 1 ~59 1MO ~59 2 ~59 RL ~9J\nO 9I C ^\nO 6l D ^\nO 6l D ^\nO 9I C q Mt 8C 2ss o 1 2 ~59\nO bz C ^ F 300 a 5 1LQ ~59 1 ~59 1MO ~59 2 ~59 RL ~9J\nO bz C ^ F 2ZZ a 5 1LQ ~59 1 ~59 1MO ~59 2 ~59 RL ~9J\nO b0 F 2ZY a 5 1LQ ~59 1 ~59 1MO ~59 2 ~59 RL ~9J\nO b0 F 2ZX a 5 1LQ ~59 1 ~59 1MO ~59 2 ~7d RL ~9J\nO b0 F 2ZW a 5 1LQ ~59 1 ~59 1MO ~59 2 ~59 RL ~9J\nO b0 F 2ZV a 5 1LQ ~59 1 ~59 1MO ~59 2 ~59 RL ~9J\nO b0 F 2ZU a 5 1LQ ~59 1 ~59 1MO ~59 2 ~59 RL ~9J\nO bz C ^ F 2ZT a 5 1LQ ~59 1 ~59 1MO ~59 2 ~59 RL ~9J\nO 6l D ^\nO 6l D ^\nO 9I C q Mt 8B 2s8 o 1 2 ~59\nO 9I C q Mt 8B 1LT o 2 1NE ~bb 2 ~59\nO 9I C q Mt 8B Oe o 2 1NE ~bb 2 ~59\nO 9I C q Mt 8B 19v o 2 1NE ~bb 2 ~59\nO 9I C q Mt 8B 2sq\nO 9I C q Mt 8B 2sp o 1 2 ~59\nO 9I C q Mt 8B 2so o 1 2 ~59\nO 9I C q Mt 8B Mg o 1 2 ~59\nO bz C ^ F 30a a 5 1LQ ~59 1 ~59 1MO ~59 2 ~7d RL ~9J\nO b0 F 309 a 5 1LQ ~59 1 ~59 1MO ~59 2 ~7d RL ~9J\nO b0 F 308 a 5 1LQ ~59 1 ~59 1MO ~59 2 ~7d RL ~9J\nO b0 F 307 a 5 1LQ ~59 1 ~59 1MO ~59 2 ~59 RL ~9J\nO 6l D ^\nO 6l D ^\nO 9I C q Mt 8r 1LT o 2 1NE ~bb 2 ~59\nO 9I C q Mt 8r Oe o 1 1NE ~bb\nO 9I C q Mt 8r 2sn\nO 9I C q Mt 8r 2sm\nO fx a 2 Ik ~59 1Oj ~59\nO kA a 2 11W ~59 NL ~59\nO 8N a 9 11W ~59 1M1 30c 1M2 ~59 1M3 ~7d 1M4 ~7d 1M5 ~8O 1M6 ~8P 1M7 ~59 1M8 ~8P\nO 9I C ^\nT hS P = My 1 5l 2 30f 5l C ^ a 8 1LQ ~59 2 ~59 1L2 30B 1LT 30C 1L3 30D 1M0 30E 1MQ ~i2 1P3 ~i3\nT hS P = MA 1 5l 2 30g 5l C ^ a 9 1LQ ~59 2 ~59 Mh 30x 1LT 2Zz Mg 30y 1L3 30z 1M0 30A 1MQ ~i2 1P3 ~i3\nT hS P = MB 1 1B7 3 30h 1B7 5l C ^ a 5 1LQ ~59 2 ~59 19L 30w 1MQ ~i2 1P3 ~i3\nT hS P = MC 1 1B7 3 30i 1B7 5l C ^ a a 1LQ ~59 2 ~59 1LY 30r 1LW 30s 1LX 30t 1Qa 30u 1LV eh 1LZ ei 1MQ ~i2 1P3 ~i3\nT hS P = MD 1 30i 4 30j 30i 1B7 5l C ^ a 6 1LQ ~59 2 ~59 1NU 30p 1LW 30q 1MQ ~i2 1P3 ~i3\nT hS P = 8u 1 kB 7 30k kB 30h 30j 30i 1B7 5l C ^ a 4 1LQ ~59 2 ~59 1MQ ~i2 1P3 ~i3\nT hS P = 8t 1 kC 8 30l kC e1 30h 30j 30i 1B7 5l C ^ a 7 1LQ ~59 2 ~59 1Q9 30m 1Q6 30n 1Q8 30o 1MQ ~i2 1P3 ~i3\nO 9I C ^ o 1 2 ~59\nO 9I C ^ o 1 2 ~59\nO 9I C ^ o 1 2 ~59\nO 9I C ^ a 1 1Nz ~8P o 1 2 ~59\nO 9I C ^ o 1 2 ~59\nO 9I C ^ o 1 2 ~59\nO 9I C ^ o 1 2 ~59\nO 9I C ^ a 1 1Nz ~8P o 1 2 ~59\nO bz C ^ F 30v a 5 1LQ ~59 1 ~59 1MO ~59 2 ~59 RL ~9J\nO 9I C q Mr MC 1Qa o 2 1NE ~bb 2 ~59\nO 9I C ^ a 1 1Nz ~8P o 1 2 ~59\nO 9I C ^ o 1 2 ~59\nO 9I C ^ o 1 2 ~59\nO 6l D ^\nO 6l D ^\nO 9I C ^\nO 9I C ^ a 1 1Nz ~8P o 2 1NE ~bb 2 ~59\nO 6l D ^\nO 6l D ^\nO kA a 2 11W ~59 NL ~59\nO 8N a 9 11W ~59 1M1 30F 1M2 ~59 1M3 ~7d 1M4 ~7d 1M5 ~8O 1M6 ~8P 1M7 ~59 1M8 ~8P\nO kA a 2 11W ~59 NL ~59\nO 8N a 9 11W ~59 1M1 30H 1M2 ~59 1M3 ~7d 1M4 ~8O 1M5 ~8O 1M6 ~8P 1M7 ~59 1M8 ~8P\nO 9I C q Mt - 7Q o 1 2 ~59\nO 9I C q Ms - 7v o 2 1NE ~bb 2 ~59\nO 9I C ^ o 1 2 ~59\nO 9I C ^ o 2 1NE ~bb 2 ~59\nO 9I C ^ o 1 2 ~59\nO kA a 2 11W ~59 NL ~59\nO 8N a 9 11W ~59 1M1 30O 1M2 ~59 1M3 ~7d 1M4 ~8O 1M5 ~8O 1M6 ~8P 1M7 ~59 1M8 ~8P\nT Gz P = Md 1 1qg 6 30Q 1qg 5j 1jm Fp 5l C ^ a 1e 24i 31c 1WF 31c 1WG ~8P 1WD GA 1WH ~8O 1WI ~9J 1WJ ~9J 1WK ~8O 1WL 5j 1WM 5n 1LQ ~59 2 ~59 1KX GE 1LM 6f 2st 31d 2su 31e 2sv 31f 2sw 31g 2sx 31h 2sy 31i 2sz 31j 2sA 31k 2sB 31l 2sC 31m 2sD 31n 2sE 31o 2sF 31p 2sG 31q 2sH 31r 2sI 31s 2sJ 31t 2sK 31u 2sL 31v 2sM 31w 2sN 31x 2sO 31y 2sP 31z 2sQ 31A 2sR 31B 2sS 31C 2sT 31D 2sU 31E 2sV 31F 2sW 31G 2sX 31H 2sY 31I 2sZ 31J 2t0 31K 2t1 31L 2t2 31M 2t3 31N 2t4 31O 2t5 31P 2t6 31Q 2t7 31R 2t8 31S 2t9 31T 2ta 31U 2tb 31V 2tc 31W 2td 31X 2te 31Y 2tf 31Z 2tg 320 2th 321 2ti 322 2tj 323 2tk 324 2tl 325 2tm 326 2tn 327 2to 328 2tp 329 2tq 32a 2tr 32b 2ts 32c\nT Gz P = Me 1 1k0 6 30R 1k0 59 1jm Fp 5l C ^ a p 24i 30S 1WF 30S 1WG ~8P 1WD 1k1 1WH ~8O 1WI ~9J 1WJ ~9J 1WK ~8O 1WL 59 1WM bP 1LQ ~59 2 ~59 1KX GE 1KY 30T 1L6 bR 1LM cS 2tt 30U 2tu 30V 18x 30W 2tv 30X 2tw 30Y 2tx 30Z 2ty 310 18E 311 2tz 312\nO 9I C q Mc Me 1KX\nO 9I C ^\nO GI I k 313 R k 313 a 8 1Ns ~7d 1Nt ~7d 1Ny ~7d 2 ~7d 1X8 ~8P 1Nz ~8P 11W ~59 1X9 ~59\nO GI I k 314 R k 314 a 8 1Ns ~7d 1Nt ~7d 1Ny ~7d 2 ~7d 1X8 ~8P 1Nz ~8P 11W ~59 1X9 ~59\nO GI I k 315 R k 315 a 8 1Ns ~7d 1Nt ~7d 1Ny ~7d 2 ~7d 1X8 ~8P 1Nz ~8P 11W ~59 1X9 ~59\nO GI I k 316 R k 316 a 8 1Ns ~7d 1Nt ~7d 1Ny ~7d 2 ~7d 1X8 ~8P 1Nz ~8P 11W ~59 1X9 ~59\nO GI I k 317 R k 317 a 8 1Ns ~7d 1Nt ~7d 1Ny ~7d 2 ~7d 1X8 ~8P 1Nz ~8P 11W ~59 1X9 ~59\nO GI I k 318 R k 318 a 8 1Ns ~7d 1Nt ~7d 1Ny ~7d 2 ~7d 1X8 ~8P 1Nz ~8P 11W ~59 1X9 ~59\nO GI I k 319 R k 319 a 8 1Ns ~7d 1Nt ~7d 1Ny ~7d 2 ~7d 1X8 ~8P 1Nz ~8P 11W ~59 1X9 ~59\nO GI I k 31a R k 31a a 8 1Ns ~7d 1Nt ~7d 1Ny ~7d 2 ~7d 1X8 ~8P 1Nz ~8P 11W ~59 1X9 ~59\nO GI I k 31b R k 31b a 8 1Ns ~7d 1Nt ~7d 1Ny ~7d 2 ~7d 1X8 ~8P 1Nz ~8P 11W ~59 1X9 ~59\nO 30R a 5 1Xa ~59 2qw ~59 1Xb ~59 1N1 30R 1Xc ~5j o 1 1TK ~59\nO 30R a 5 1Xa ~59 2qw ~59 1Xb ~59 1N1 30R 1Xc ~5j o 1 1TK ~59\nO 30R a 5 1Xa ~59 2qw ~59 1Xb ~59 1N1 30R 1Xc ~5j o 1 1TK ~59\nO 30R a 5 1Xa ~59 2qw ~59 1Xb ~59 1N1 30R 1Xc ~5j o 1 1TK ~59\nO 30R a 5 1Xa ~59 2qw ~59 1Xb ~59 1N1 30R 1Xc ~5j o 1 1TK ~59\nO 30R a 5 1Xa ~59 2qw ~59 1Xb ~59 1N1 30R 1Xc ~5j o 1 1TK ~59\nO 30R a 5 1Xa ~59 2qw ~59 1Xb ~59 1N1 30R 1Xc ~5j o 1 1TK ~59\nO 30R a 5 1Xa ~59 2qw ~59 1Xb ~59 1N1 30R 1Xc ~5j o 1 1TK ~59\nO 30R a 5 1Xa ~59 2qw ~59 1Xb ~59 1N1 30R 1Xc ~5j o 1 1TK ~59\nO 9I C q Mc Md 1KX o 1 1NE ~bb\nO GI I k 32d R k 32d a 8 1Ns ~7d 1Nt ~7d 1Ny ~7d 2 ~7d 1X8 ~8P 1Nz ~8P 11W ~59 1X9 ~59\nO GI I k 32e R k 32e a 8 1Ns ~7d 1Nt ~7d 1Ny ~7d 2 ~7d 1X8 ~8P 1Nz ~8P 11W ~59 1X9 ~59\nO GI I k 32f R k 32f a 8 1Ns ~7d 1Nt ~7d 1Ny ~7d 2 ~7d 1X8 ~8P 1Nz ~8P 11W ~59 1X9 ~59\nO GI I k 32g R k 32g a 8 1Ns ~7d 1Nt ~7d 1Ny ~7d 2 ~7d 1X8 ~8P 1Nz ~8P 11W ~59 1X9 ~59\nO GI I k 32h R k 32h a 8 1Ns ~7d 1Nt ~7d 1Ny ~7d 2 ~7d 1X8 ~8P 1Nz ~8P 11W ~59 1X9 ~59\nO GI I k 32i R k 32i a 8 1Ns ~7d 1Nt ~7d 1Ny ~7d 2 ~7d 1X8 ~8P 1Nz ~8P 11W ~59 1X9 ~59\nO GI I k 32j R k 32j a 8 1Ns ~7d 1Nt ~7d 1Ny ~7d 2 ~7d 1X8 ~8P 1Nz ~8P 11W ~59 1X9 ~59\nO GI I k 32k R k 32k a 8 1Ns ~7d 1Nt ~7d 1Ny ~7d 2 ~7d 1X8 ~8P 1Nz ~8P 11W ~59 1X9 ~59\nO GI I k 32l R k 32l a 8 1Ns ~7d 1Nt ~7d 1Ny ~7d 2 ~7d 1X8 ~8P 1Nz ~8P 11W ~59 1X9 ~59\nO GI I k 32m R k 32m a 8 1Ns ~7d 1Nt ~7d 1Ny ~7d 2 ~7d 1X8 ~8P 1Nz ~8P 11W ~59 1X9 ~59\nO GI I k 32n R k 32n a 8 1Ns ~7d 1Nt ~7d 1Ny ~7d 2 ~7d 1X8 ~8P 1Nz ~8P 11W ~59 1X9 ~59\nO GI I k 32o R k 32o a 8 1Ns ~7d 1Nt ~7d 1Ny ~7d 2 ~7d 1X8 ~8P 1Nz ~8P 11W ~59 1X9 ~59\nO GI I k 32p R k 32p a 8 1Ns ~7d 1Nt ~7d 1Ny ~7d 2 ~7d 1X8 ~8P 1Nz ~8P 11W ~59 1X9 ~59\nO GI I k 32q R k 32q a 8 1Ns ~7d 1Nt ~7d 1Ny ~7d 2 ~7d 1X8 ~8P 1Nz ~8P 11W ~59 1X9 ~59\nO GI I k 32r R k 32r a 8 1Ns ~7d 1Nt ~7d 1Ny ~7d 2 ~7d 1X8 ~8P 1Nz ~8P 11W ~59 1X9 ~59\nO GI I k 32s R k 32s a 8 1Ns ~7d 1Nt ~7d 1Ny ~7d 2 ~7d 1X8 ~8P 1Nz ~8P 11W ~59 1X9 ~59\nO GI I k 32t R k 32t a 8 1Ns ~7d 1Nt ~7d 1Ny ~7d 2 ~7d 1X8 ~8P 1Nz ~8P 11W ~59 1X9 ~59\nO GI I k 32u R k 32u a 8 1Ns ~7d 1Nt ~7d 1Ny ~7d 2 ~7d 1X8 ~8P 1Nz ~8P 11W ~59 1X9 ~59\nO GI I k 32v R k 32v a 8 1Ns ~7d 1Nt ~7d 1Ny ~7d 2 ~7d 1X8 ~8P 1Nz ~8P 11W ~59 1X9 ~59\nO GI I k 32w R k 32w a 8 1Ns ~7d 1Nt ~7d 1Ny ~7d 2 ~7d 1X8 ~8P 1Nz ~8P 11W ~59 1X9 ~59\nO GI I k 32x R k 32x a 8 1Ns ~7d 1Nt ~7d 1Ny ~7d 2 ~7d 1X8 ~8P 1Nz ~8P 11W ~59 1X9 ~59\nO GI I k 32y R k 32y a 8 1Ns ~7d 1Nt ~7d 1Ny ~7d 2 ~7d 1X8 ~8P 1Nz ~8P 11W ~59 1X9 ~59\nO GI I k 32z R k 32z a 8 1Ns ~7d 1Nt ~7d 1Ny ~7d 2 ~7d 1X8 ~8P 1Nz ~8P 11W ~59 1X9 ~59\nO GI I k 32A R k 32A a 8 1Ns ~7d 1Nt ~7d 1Ny ~7d 2 ~7d 1X8 ~8P 1Nz ~8P 11W ~59 1X9 ~59\nO GI I k 32B R k 32B a 8 1Ns ~7d 1Nt ~7d 1Ny ~7d 2 ~7d 1X8 ~8P 1Nz ~8P 11W ~59 1X9 ~59\nO GI I k 32C R k 32C a 8 1Ns ~7d 1Nt ~7d 1Ny ~7d 2 ~7d 1X8 ~8P 1Nz ~8P 11W ~59 1X9 ~59\nO GI I k 32D R k 32D a 8 1Ns ~7d 1Nt ~7d 1Ny ~7d 2 ~7d 1X8 ~8P 1Nz ~8P 11W ~59 1X9 ~59\nO GI I k 32E R k 32E a 8 1Ns ~7d 1Nt ~7d 1Ny ~7d 2 ~7d 1X8 ~8P 1Nz ~8P 11W ~59 1X9 ~59\nO GI I k 32F R k 32F a 8 1Ns ~7d 1Nt ~7d 1Ny ~7d 2 ~7d 1X8 ~8P 1Nz ~8P 11W ~59 1X9 ~59\nO GI I k 32G R k 32G a 8 1Ns ~7d 1Nt ~7d 1Ny ~7d 2 ~7d 1X8 ~8P 1Nz ~8P 11W ~59 1X9 ~59\nO GI I k 32H R k 32H a 8 1Ns ~7d 1Nt ~7d 1Ny ~7d 2 ~7d 1X8 ~8P 1Nz ~8P 11W ~59 1X9 ~59\nO GI I k 32I R k 32I a 8 1Ns ~7d 1Nt ~7d 1Ny ~7d 2 ~7d 1X8 ~8P 1Nz ~8P 11W ~59 1X9 ~59\nO GI I k 32J R k 32J a 8 1Ns ~7d 1Nt ~7d 1Ny ~7d 2 ~7d 1X8 ~8P 1Nz ~8P 11W ~59 1X9 ~59\nO GI I k 32K R k 32K a 8 1Ns ~7d 1Nt ~7d 1Ny ~7d 2 ~7d 1X8 ~8P 1Nz ~8P 11W ~59 1X9 ~59\nO GI I k 32L R k 32L a 8 1Ns ~7d 1Nt ~7d 1Ny ~7d 2 ~7d 1X8 ~8P 1Nz ~8P 11W ~59 1X9 ~59\nO GI I k 32M R k 32M a 8 1Ns ~7d 1Nt ~7d 1Ny ~7d 2 ~7d 1X8 ~8P 1Nz ~8P 11W ~59 1X9 ~59\nO GI I k 32N R k 32N a 8 1Ns ~7d 1Nt ~7d 1Ny ~7d 2 ~7d 1X8 ~8P 1Nz ~8P 11W ~59 1X9 ~59\nO GI I k 32O R k 32O a 8 1Ns ~7d 1Nt ~7d 1Ny ~7d 2 ~7d 1X8 ~8P 1Nz ~8P 11W ~59 1X9 ~59\nO GI I k 32P R k 32P a 8 1Ns ~7d 1Nt ~7d 1Ny ~7d 2 ~7d 1X8 ~8P 1Nz ~8P 11W ~59 1X9 ~59\nO GI I k 32Q R k 32Q a 8 1Ns ~7d 1Nt ~7d 1Ny ~7d 2 ~7d 1X8 ~8P 1Nz ~8P 11W ~59 1X9 ~59\nO GI I k 32R R k 32R a 8 1Ns ~7d 1Nt ~7d 1Ny ~7d 2 ~7d 1X8 ~8P 1Nz ~8P 11W ~59 1X9 ~59\nO GI I k 32S R k 32S a 8 1Ns ~7d 1Nt ~7d 1Ny ~7d 2 ~7d 1X8 ~8P 1Nz ~8P 11W ~59 1X9 ~59\nO GI I k 32T R k 32T a 8 1Ns ~7d 1Nt ~7d 1Ny ~7d 2 ~7d 1X8 ~8P 1Nz ~8P 11W ~59 1X9 ~59\nO GI I k 32U R k 32U a 8 1Ns ~7d 1Nt ~7d 1Ny ~7d 2 ~7d 1X8 ~8P 1Nz ~8P 11W ~59 1X9 ~59\nO GI I k 32V R k 32V a 8 1Ns ~7d 1Nt ~7d 1Ny ~7d 2 ~7d 1X8 ~8P 1Nz ~8P 11W ~59 1X9 ~59\nO GI I k 32W R k 32W a 8 1Ns ~7d 1Nt ~7d 1Ny ~7d 2 ~7d 1X8 ~8P 1Nz ~8P 11W ~59 1X9 ~59\nO GI I k 32X R k 32X a 8 1Ns ~7d 1Nt ~7d 1Ny ~7d 2 ~7d 1X8 ~8P 1Nz ~8P 11W ~59 1X9 ~59\nO GI I k 32Y R k 32Y a 8 1Ns ~7d 1Nt ~7d 1Ny ~7d 2 ~7d 1X8 ~8P 1Nz ~8P 11W ~59 1X9 ~59\nO GI I k 32Z R k 32Z a 8 1Ns ~7d 1Nt ~7d 1Ny ~7d 2 ~7d 1X8 ~8P 1Nz ~8P 11W ~59 1X9 ~59\nO GI I k 330 R k 330 a 8 1Ns ~7d 1Nt ~7d 1Ny ~7d 2 ~7d 1X8 ~8P 1Nz ~8P 11W ~59 1X9 ~59\nO GI I k 331 R k 331 a 8 1Ns ~7d 1Nt ~7d 1Ny ~7d 2 ~7d 1X8 ~8P 1Nz ~8P 11W ~59 1X9 ~59\nO GI I k 332 R k 332 a 8 1Ns ~7d 1Nt ~7d 1Ny ~7d 2 ~7d 1X8 ~8P 1Nz ~8P 11W ~59 1X9 ~59\nO GI I k 333 R k 333 a 8 1Ns ~7d 1Nt ~7d 1Ny ~7d 2 ~7d 1X8 ~8P 1Nz ~8P 11W ~59 1X9 ~59\nO GI I k 334 R k 334 a 8 1Ns ~7d 1Nt ~7d 1Ny ~7d 2 ~7d 1X8 ~8P 1Nz ~8P 11W ~59 1X9 ~59\nO GI I k 335 R k 335 a 8 1Ns ~7d 1Nt ~7d 1Ny ~7d 2 ~7d 1X8 ~8P 1Nz ~8P 11W ~59 1X9 ~59\nO GI I k 336 R k 336 a 8 1Ns ~7d 1Nt ~7d 1Ny ~7d 2 ~7d 1X8 ~8P 1Nz ~8P 11W ~59 1X9 ~59\nO GI I k 337 R k 337 a 8 1Ns ~7d 1Nt ~7d 1Ny ~7d 2 ~7d 1X8 ~8P 1Nz ~8P 11W ~59 1X9 ~59\nO GI I k 338 R k 338 a 8 1Ns ~7d 1Nt ~7d 1Ny ~7d 2 ~7d 1X8 ~8P 1Nz ~8P 11W ~59 1X9 ~59\nO GI I k 339 R k 339 a 8 1Ns ~7d 1Nt ~7d 1Ny ~7d 2 ~7d 1X8 ~8P 1Nz ~8P 11W ~59 1X9 ~59\nO GI I k 33a R k 33a a 8 1Ns ~7d 1Nt ~7d 1Ny ~7d 2 ~7d 1X8 ~8P 1Nz ~8P 11W ~59 1X9 ~59\nO GI I k 33b R k 33b a 8 1Ns ~7d 1Nt ~7d 1Ny ~7d 2 ~7d 1X8 ~8P 1Nz ~8P 11W ~59 1X9 ~59\nO GI I k 33c R k 33c a 8 1Ns ~7d 1Nt ~7d 1Ny ~7d 2 ~7d 1X8 ~8P 1Nz ~8P 11W ~59 1X9 ~59\nO 30Q a 6 1Xa ~5j 2tA ~59 2qw ~59 1Xb ~59 1N1 30Q 1Xc ~5j\nO 30Q a 6 1Xa ~5j 2tA ~59 2qw ~59 1Xb ~59 1N1 30Q 1Xc ~5j\nO 30Q a 6 1Xa ~5j 2tA ~59 2qw ~59 1Xb ~59 1N1 30Q 1Xc ~5j\nO 30Q a 6 1Xa ~5j 2tA ~59 2qw ~59 1Xb ~59 1N1 30Q 1Xc ~5j\nO 30Q a 6 1Xa ~5j 2tA ~59 2qw ~59 1Xb ~59 1N1 30Q 1Xc ~5j\nO 30Q a 6 1Xa ~5j 2tA ~59 2qw ~59 1Xb ~59 1N1 30Q 1Xc ~5j\nO 30Q a 6 1Xa ~5j 2tA ~59 2qw ~59 1Xb ~59 1N1 30Q 1Xc ~5j\nO 30Q a 6 1Xa ~5j 2tA ~59 2qw ~59 1Xb ~59 1N1 30Q 1Xc ~5j\nO 30Q a 6 1Xa ~5j 2tA ~59 2qw ~59 1Xb ~59 1N1 30Q 1Xc ~5j\nO 30Q a 6 1Xa ~5j 2tA ~59 2qw ~59 1Xb ~59 1N1 30Q 1Xc ~5j\nO 30Q a 6 1Xa ~5j 2tA ~59 2qw ~59 1Xb ~59 1N1 30Q 1Xc ~5j\nO 30Q a 6 1Xa ~5j 2tA ~59 2qw ~59 1Xb ~59 1N1 30Q 1Xc ~5j\nO 30Q a 6 1Xa ~5j 2tA ~59 2qw ~59 1Xb ~59 1N1 30Q 1Xc ~5j\nO 30Q a 6 1Xa ~5j 2tA ~59 2qw ~59 1Xb ~59 1N1 30Q 1Xc ~5j\nO 30Q a 6 1Xa ~5j 2tA ~59 2qw ~59 1Xb ~59 1N1 30Q 1Xc ~5j\nO 30Q a 6 1Xa ~5j 2tA ~59 2qw ~59 1Xb ~59 1N1 30Q 1Xc ~5j\nO 30Q a 6 1Xa ~5j 2tA ~59 2qw ~59 1Xb ~59 1N1 30Q 1Xc ~5j\nO 30Q a 6 1Xa ~5j 2tA ~59 2qw ~59 1Xb ~59 1N1 30Q 1Xc ~5j\nO 30Q a 6 1Xa ~5j 2tA ~59 2qw ~59 1Xb ~59 1N1 30Q 1Xc ~5j\nO 30Q a 6 1Xa ~5j 2tA ~59 2qw ~59 1Xb ~59 1N1 30Q 1Xc ~5j\nO 30Q a 6 1Xa ~5j 2tA ~59 2qw ~59 1Xb ~59 1N1 30Q 1Xc ~5j\nO 30Q a 6 1Xa ~5j 2tA ~59 2qw ~59 1Xb ~59 1N1 30Q 1Xc ~5j\nO 30Q a 6 1Xa ~5j 2tA ~59 2qw ~59 1Xb ~59 1N1 30Q 1Xc ~5j\nO 30Q a 6 1Xa ~5j 2tA ~59 2qw ~59 1Xb ~59 1N1 30Q 1Xc ~5j\nO 30Q a 6 1Xa ~5j 2tA ~59 2qw ~59 1Xb ~59 1N1 30Q 1Xc ~5j\nO 30Q a 6 1Xa ~5j 2tA ~59 2qw ~59 1Xb ~59 1N1 30Q 1Xc ~5j\nO 30Q a 6 1Xa ~5j 2tA ~59 2qw ~59 1Xb ~59 1N1 30Q 1Xc ~5j\nO 30Q a 6 1Xa ~5j 2tA ~59 2qw ~59 1Xb ~59 1N1 30Q 1Xc ~5j\nO 30Q a 6 1Xa ~5j 2tA ~59 2qw ~59 1Xb ~59 1N1 30Q 1Xc ~5j\nO 30Q a 6 1Xa ~5j 2tA ~59 2qw ~59 1Xb ~59 1N1 30Q 1Xc ~5j\nO 30Q a 6 1Xa ~5j 2tA ~59 2qw ~59 1Xb ~59 1N1 30Q 1Xc ~5j\nO 30Q a 6 1Xa ~5j 2tA ~59 2qw ~59 1Xb ~59 1N1 30Q 1Xc ~5j\nO 30Q a 6 1Xa ~5j 2tA ~59 2qw ~59 1Xb ~59 1N1 30Q 1Xc ~5j\nO 30Q a 6 1Xa ~5j 2tA ~59 2qw ~59 1Xb ~59 1N1 30Q 1Xc ~5j\nO 30Q a 6 1Xa ~5j 2tA ~59 2qw ~59 1Xb ~59 1N1 30Q 1Xc ~5j\nO 30Q a 6 1Xa ~5j 2tA ~59 2qw ~59 1Xb ~59 1N1 30Q 1Xc ~5j\nO 30Q a 6 1Xa ~5j 2tA ~59 2qw ~59 1Xb ~59 1N1 30Q 1Xc ~5j\nO 30Q a 6 1Xa ~5j 2tA ~59 2qw ~59 1Xb ~59 1N1 30Q 1Xc ~5j\nO 30Q a 6 1Xa ~5j 2tA ~59 2qw ~59 1Xb ~59 1N1 30Q 1Xc ~5j\nO 30Q a 6 1Xa ~5j 2tA ~59 2qw ~59 1Xb ~59 1N1 30Q 1Xc ~5j\nO 30Q a 6 1Xa ~5j 2tA ~59 2qw ~59 1Xb ~59 1N1 30Q 1Xc ~5j\nO 30Q a 6 1Xa ~5j 2tA ~59 2qw ~59 1Xb ~59 1N1 30Q 1Xc ~5j\nO 30Q a 6 1Xa ~5j 2tA ~59 2qw ~59 1Xb ~59 1N1 30Q 1Xc ~5j\nO 30Q a 6 1Xa ~5j 2tA ~59 2qw ~59 1Xb ~59 1N1 30Q 1Xc ~5j\nO 30Q a 6 1Xa ~5j 2tA ~59 2qw ~59 1Xb ~59 1N1 30Q 1Xc ~5j\nO 30Q a 6 1Xa ~5j 2tA ~59 2qw ~59 1Xb ~59 1N1 30Q 1Xc ~5j\nO 30Q a 6 1Xa ~5j 2tA ~59 2qw ~59 1Xb ~59 1N1 30Q 1Xc ~5j\nO 30Q a 6 1Xa ~5j 2tA ~59 2qw ~59 1Xb ~59 1N1 30Q 1Xc ~5j\nO 30Q a 6 1Xa ~5j 2tA ~59 2qw ~59 1Xb ~59 1N1 30Q 1Xc ~5j\nO 30Q a 6 1Xa ~5j 2tA ~59 2qw ~59 1Xb ~59 1N1 30Q 1Xc ~5j\nO 30Q a 6 1Xa ~5j 2tA ~59 2qw ~59 1Xb ~59 1N1 30Q 1Xc ~5j\nO 30Q a 6 1Xa ~5j 2tA ~59 2qw ~59 1Xb ~59 1N1 30Q 1Xc ~5j\nO 30Q a 6 1Xa ~5j 2tA ~59 2qw ~59 1Xb ~59 1N1 30Q 1Xc ~5j\nO 30Q a 6 1Xa ~5j 2tA ~59 2qw ~59 1Xb ~59 1N1 30Q 1Xc ~5j\nO 30Q a 6 1Xa ~5j 2tA ~59 2qw ~59 1Xb ~59 1N1 30Q 1Xc ~5j\nO 30Q a 6 1Xa ~5j 2tA ~59 2qw ~59 1Xb ~59 1N1 30Q 1Xc ~5j\nO 30Q a 6 1Xa ~5j 2tA ~59 2qw ~59 1Xb ~59 1N1 30Q 1Xc ~5j\nO 30Q a 6 1Xa ~5j 2tA ~59 2qw ~59 1Xb ~59 1N1 30Q 1Xc ~5j\nO 30Q a 6 1Xa ~5j 2tA ~59 2qw ~59 1Xb ~59 1N1 30Q 1Xc ~5j\nO 30Q a 6 1Xa ~5j 2tA ~59 2qw ~59 1Xb ~59 1N1 30Q 1Xc ~5j\nO 30Q a 6 1Xa ~5j 2tA ~59 2qw ~59 1Xb ~59 1N1 30Q 1Xc ~5j\nO 30Q a 6 1Xa ~5j 2tA ~59 2qw ~59 1Xb ~59 1N1 30Q 1Xc ~5j\nO kA a 2 11W ~59 NL ~59\nO 8N a 9 11W ~59 1M1 33d 1M2 ~59 1M3 ~7d 1M4 ~7d 1M5 ~8O 1M6 ~8P 1M7 ~59 1M8 ~8P\nO 9I C ^ o 1 2 ~59\nT 5k P = Mb 1 33h 3 33g 33h 5l C ^ a s 1LQ ~59 2 ~59 2tB ~bb 1L2 33i 1Qq 33j 1Qo 33k eD 33l 2tC ~7d 2tD 33m 2tE 33n 2tF 33o 2tG 33p 2tH 33q 2tI 33r 2tJ 33s 2tK 33t 2tL 33u 2tM 33v 2tN 33w 2tO 33x 2tP 33y 2tQ 33z 2tR 33A 2tS 33B 2tT 33C 2tU 33D 2tV 33E 2tW 33F\nT 5k P = bX 1 5l 2 33h 5l C ^ a j 1LQ ~59 2 ~59 1L2 33G 1Qq 33H 2tX 33I 2tY 33J 2tZ ~59 2u0 33K 2u1 33L 2u2 33M 2u3 33N 2u4 33O 2u5 33P 2u6 33Q 2u7 33R 2u8 33S 2tW 33T 1L3 33U 1M0 33V\nO 9I C ^ o 2 2 ~59 1Nr ~9J\nO 9I C ^ o 1 2 ~59\nO 9I C ^ o 1 2 ~59\nO 9I C ^ o 1 2 ~59\nO 9I C ^ o 1 2 ~59\nO 9I C ^\nO 9I C ^\nO 9I C ^\nO 9I C ^\nO 9I C ^ o 1 1NE ~bb\nO 9I C ^\nO 9I C ^\nO 9I C ^\nO 9I C ^\nO 9I C ^\nO 9I C ^\nO 9I C ^\nO 9I C ^\nO 9I C ^\nO 9I C ^\nO 9I C ^\nO 9I C ^\nO 9I C ^\nO 9I C ^\nO 9I C ^\nO 9I C ^\nO 9I C ^ o 1 2 ~59\nO 9I C ^\nO 9I C ^\nO 9I C ^ o 1 1NE ~bb\nO 9I C ^ o 1 1NE ~bb\nO 9I C ^\nO 9I C ^\nO 9I C ^\nO 9I C ^\nO 9I C ^\nO 9I C ^\nO 9I C ^\nO 6l D ^\nO 6l D ^\nO kA a 2 11W ~59 NL ~59\nO 8N a 9 11W ~59 1M1 33W 1M2 ~59 1M3 ~7d 1M4 ~7d 1M5 ~8O 1M6 ~8P 1M7 ~59 1M8 ~8P\nO kA a 2 11W ~59 NL ~59\nO 8N a 9 11W ~59 1M1 33Y 1M2 ~59 1M3 ~7d 1M4 ~8O 1M5 ~8O 1M6 ~8P 1M7 ~59 1M8 ~8P\nO 9I C ^\nO kA a 2 11W ~59 NL ~59\nO 8N a 9 11W ~59 1M1 341 1M2 ~59 1M3 ~7d 1M4 ~7d 1M5 ~8O 1M6 ~8P 1M7 ~59 1M8 ~8P\nT 5k P = 97 1 5l 2 343 5l C ^ a i 1LQ ~59 2 ~59 2u9 ~5j 1On ~bb 1L2 346 2ua 347 2ub 348 11W 349 1NL 34a wg 34b 2uc 34c LJ 34d 2ud 34e 2ue 34f 2uf 34g 2ug 34h 2uh 34i LI 34j\nO 9I C ^ o 2 1NE ~bb 2 ~59\nO 9I C ^ o 1 2 ~59\nO 9I C ^ o 2 1NE ~bb 2 ~59\nO 9I C ^\nO 9I C ^\nO 9F o 2 2 ~7d 1Ns 34k\nO 9I C ^ o 1 2 ~59\nO 9I C ^ o 1 2 ~59\nO 9I C ^ o 1 2 ~59\nO 9I C ^ o 1 2 ~59\nO 9I C ^ o 1 2 ~59\nO 6v D ^\nO 6v D ^\nO 6v D ^\nO 6v D ^\nO 6v D ^\nO 9I C q LD 97 11W\nO kA a 2 11W ~59 NL ~59\nO 8N a 9 11W ~59 1M1 34l 1M2 ~59 1M3 ~7d 1M4 ~7d 1M5 ~8O 1M6 ~8P 1M7 ~59 1M8 ~8P\nO 7c C ^ S l\nO 7c C ^ S l\nO 7c C ^ S l\nO 7c C ^ S l\nO 7c C ^ S l\nO 7c C ^ S l\nO 9I C ^\nO 9I C ^\nO 9I C ^ o 1 2 ~59\nO 9I C ^ o 1 2 ~59\nO 9I C ^ o 2 2 ~59 1Nr ~9J\nO 9I C ^ o 2 1NE ~bb 2 ~59\nO 9I C o 1X o 2 1NE ~bb 2 ~59\nO kA a 2 11W ~59 NL ~59\nO 8N a 9 11W ~59 1M1 34A 1M2 ~59 1M3 ~7d 1M4 ~7d 1M5 ~8O 1M6 ~8P 1M7 ~59 1M8 ~8P\nO 9I C ^\nO 9I C q Le - 2ui o 2 1NE ~bb 2 ~59\nO 7c C ^ S k\nO 7c C ^ S k\nO 9I C ^ o 2 2 ~59 1Nr ~9J\nO 7c C ^ S k\nO 7c C ^ S k\nO 7c C ^ S k\nO 7c C ^ S k\nO 7c C ^ S k\nO 7c C ^ S k\nT 5k P 2uj 2K 1 5l 2 34N 5l C ^ a e 1KX 353 wg 354 LJ 355 2ud 356 1NL 357 11W 358 2uh 359 LI 35a 2 ~59 1LQ ~59 2uk ~5j 2ul ~5j 2um ~5j 2un ~5j o 1 1L4 ~59\nT 5k P 2uo 2P 1 5l 2 34O 5l C ^ a e 1KX 34V wg 34W LJ 34X 2ud 34Y 1NL 34Z 11W 350 2uh 351 LI 352 2 ~59 1LQ ~59 2uk ~5j 2ul ~5j 2um ~5j 2un ~5j o 1 1L4 ~59\nO 7c C ^ S k\nO 7c C ^ S k\nO 7c C ^ S k\nO 7c C ^ S k\nO 7c C ^ S k\nO 7c C ^ S k\nO 7c C b S 34O o 1 1LQ ~7d\nO 6G C d D ^\nO 6G C d D ^\nO 6G C d D ^\nO 6G C d D ^\nO 6l D ^ o 1 2 ~7d\nO 6l D ^ o 1 2 ~7d\nO 6l D ^ o 1 2 ~7d\nO 7c C b S 34N o 1 1LQ ~7d\nO 6G C d D ^\nO 6G C d D ^\nO 6G C d D ^\nO 6G C d D ^\nO 6l D ^ o 1 2 ~7d\nO 6l D ^ o 1 2 ~7d\nO 6l D ^ o 1 2 ~7d\nO kA a 2 11W ~59 NL ~59\nO 8N a 9 11W ~59 1M1 35b 1M2 ~59 1M3 ~7d 1M4 ~7d 1M5 ~8O 1M6 ~8P 1M7 ~59 1M8 ~8P\nO 9I C ^ o 2 1NE ~bb 2 ~59\nO 9I C ^\nT 5k P = L7 1 5l 2 35f 5l C ^ a 9 1LQ ~59 2 ~59 1L2 365 13k 366 2up 367 1OQ 368 1P2 369 1L3 36a 1M0 36b\nT 5k P = L8 1 1sO 5 35g 1sO 8r 8s 5l C ^ a 3 1LQ ~59 2 ~59 1M0 364\nT hS P = L9 1 2s5 7 35h 2s5 hT hU hV hW 5l C ^ a p 1LQ ~59 2 ~59 2uq ~7d 1L2 35H Ik 35I 2sa 35J 1KY 35K 2ur 35L 2us 35M 13o 35N 13k 35O 1OZ 35P 1OW 35Q 1PW 35R eD 35S 1OO 35T In 35U 2ut 35V 1OX 35W 1P5 35X 1P2 35Y 1OQ 35Z 1OV 360 1MQ ~i2 1P3 ~i3\nO 9I C ^ o 1 2 ~59\nO 9I C ^ o 1 2 ~59\nT hS P = Lc 1 35p 7 35k 35p 1ts 18t hV hW 5l C ^ a b 1LQ ~59 1L2 35q 2uu 35r Lb 35s 13k 35t 2uv 35u 2uw 35v 2ux 35w 2 ~7d 1MQ ~i2 1P3 ~i3\nO 9I C ^ o 2 1NE ~bb 2 ~59\nO 9I C ^ o 3 1NE ~bb 2 ~59 1Nr ~9J\nO 9I C ^ o 1 2 ~59\nO 9I C ^\nT hS P = 4O 1 1ts 6 35p 1ts 18t hV hW 5l C ^ a e 1LQ ~59 2 ~59 1OX 35x 1L2 35y eD 35z 1P2 35A 1PM 35B 13k 35C 22c 35D 2ux 35E 1OQ 35F 1OP 35G 1MQ ~i2 1P3 ~i3\nO 9I C ^ o 1 1NB ~bb\nO 9I C ^\nO 9I C ^\nO 9I C ^ o 1 1NE ~bb\nO 9I C ^\nO 9I C ^\nO 9I C ^ o 1 1NB ~bb\nO 9I C ^\nO 9I C ^ o 1 1NE ~bb\nO 9I C ^ o 1 1NB ~bb\nO 9I C ^\nO 9I C ^\nO 9I C ^ o 1 1NE ~bb\nO 9I C ^\nO 9I C ^\nO 9I C ^ o 1 1NE ~bb\nO 9I C ^ o 1 2 ~59\nO 9I C ^ o 2 1NE ~bb 2 ~59\nO 9F o 2 2 ~7d 1Ns 363\nO 9F o 1 1Ns 362\nO 9I C ^\nO 9I C ^\nO 9I C ^\nO 9I C ^\nO 9I C ^ o 1 1NE ~bb\nO 9I C ^ o 2 1NE ~bb 2 ~59\nO 9I C ^\nO 9F o 2 2 ~7d 1Ns 361\nO 9I C ^\nO 9I C ^ o 1 1NE ~bb\nO 9I C ^ o 1 2 ~59\nO 9I C ^ o 1 2 ~59\nO 9I C ^\nO 9I C ^\nO 9I C ^\nO 9I C ^ o 1 1NE ~bb\nO 9I C ^ o 1 1NE ~bb\nO 9I C q KU L9 1PW\nO 9I C q KU L9 2sa o 1 2 ~59\nO 9I C q KU L9 Ik\nO 6l D ^\nO 9I C ^ o 1 1NE ~bb\nO 9I C ^\nO 9I C ^ o 1 1NE ~bb\nO 9I C ^\nO 9I C ^\nO 6l D ^\nO 6l D ^\nO kA a 2 11W ~59 NL ~59\nO 8N a 9 11W ~59 1M1 36c 1M2 ~59 1M3 ~7d 1M4 ~7d 1M5 ~8O 1M6 ~8P 1M7 ~59 1M8 ~8P\nT 5k P = KR 1 5l 2 36e 5l C ^ a 7 1LQ ~59 1On ~bb 1L2 36v 1ag 36w 2uy 36x 2uz 36y 2 ~7d o 1 2 ~7d\nT 5k P = KS 1 152 5 36f 152 8r 8s 5l C ^ a 3 1LQ ~59 2 ~59 1M0 36u\nT 5k P = KT 1 5l 2 36g 5l C ^ a f 1LQ ~59 2 ~59 1L2 36h 2uA 36i cd 36j 2mi 36k 2uB 36l 2uC 36m 1Mf 36n 2uD 36o 2uE 36p 2uF 36q 1Nq 36r 1L3 36s 1M0 36t\nO 9I C ^ o 1 1NE ~bb\nO 9I C ^\nO 9I C ^ o 1 2 ~59\nO 9I C ^ o 1 2 ~59\nO 9I C ^ o 1 2 ~59\nO 9I C ^ o 1 2 ~59\nO 9I C ^\nO 9I C ^ o 1 2 ~59\nO 9I C ^\nO 9I C ^ o 1 2 ~59\nO b0 F Aj a 4 1LQ ~59 1 ~59 1MO ~59 2 ~59\nO 6l D ^\nO 6l D ^\nO 6l D ^\nO 9I C ^\nO 6v D ^\nO 6v D ^\nO 6v D ^\nO kA a 2 11W ~59 NL ~59\nO 8N a 9 11W ~59 1M1 36z 1M2 ~59 1M3 ~7d 1M4 ~7d 1M5 ~8O 1M6 ~8P 1M7 ~59 1M8 ~8P\nO 9I C ^ o 2 2 ~59 1Nr ~9J\nO 9I C ^ o 2 2 ~59 1Nr ~9J\nO 9I C ^ o 1 1NE ~bb\nO 9I C ^ o 1 1NE ~bb\nO 9I C ^ o 1 1NE ~bb\nO 9I C ^\nO 9I C ^\nO 9I C ^ o 1 1NE ~bb\nO 9I C ^\nO 9I C ^\nO 9I C ^ o 1 1NE ~bb\nO 9I C ^\nO 9I C ^\nO 9I C ^\nO 9I C ^\nO 9I C ^\nO 9I C ^\nO 9I C ^ o 1 2 ~59\nO kA a 2 11W ~59 NL ~59\nO 8N a 9 11W ~59 1M1 36T 1M2 ~59 1M3 ~7d 1M4 ~7d 1M5 ~8O 1M6 ~8P 1M7 ~59 1M8 ~8P\nO 9I C ^\nO 9I C ^\nO 9I C ^ o 1 1NE ~bb\nO 9I C ^\nO 9I C ^ o 1 2 ~59\nO 9I C ^\nT 5k P = Kf 1 5l 2 371 5l C ^ a e 1LQ ~59 1L2 37k Kb 37l 2uG 37m a9 37n m9 37o Kq 37p Kr 37q VT 37r AR 37s Kk 37t 1L3 37u 1M0 37v 2 ~7d o 1 2 ~7d\nT 5k P = Kg 1 371 3 372 371 5l C ^ a c 1LQ ~59 2uH ~5j 2uI ~5j 2uJ ~59 2uK ~bb 2uL 37e Kb 37f a9 37g m9 37h Kq 37i Kr 37j 2 ~7d o 1 2 ~7d\nO 9I C ^ o 1 1NE ~bb\nO 9I C ^ o 1 1NE ~bb\nO 9I C ^ o 2 1NE ~bb 1Nr ~9J\nO 9I C ^ o 1 1NE ~bb\nO 9I C ^ o 1 1NE ~bb\nO 9I C ^\nO 9I C ^\nO 9I C ^\nO 9I C ^\nO 9I C ^\nO 9I C ^\nO 9I C ^ o 1 2 ~59\nO 9I C ^ o 1 2 ~59\nO 9I C ^\nO 9I C ^\nO 9I C ^\nO 9I C ^\nO 9I C ^ o 1 1NE ~bb\nO 9I C ^\nO 9I C ^\nO 9I C ^\nO 9I C ^\nO 9I C ^\nO 9I C ^\nO 9I C ^\nO 9I C ^\nO 9I C ^ o 1 1NE ~bb\nO 6l D ^\nO 6l D ^\nO kA a 2 11W ~59 NL ~59\nO 8N a 9 11W ~59 1M1 37w 1M2 ~59 1M3 ~7d 1M4 ~7d 1M5 ~8O 1M6 ~8P 1M7 ~59 1M8 ~8P\nT 5k P = JY 1 37D 6 37y 37D 37E 8r 8s 5l C ^ a 3 1LQ ~59 1M0 37F 2 ~7d o 1 2 ~7d\nO 9I C ^ o 2 1NE ~bb 2 ~59\nO 9I C ^ o 1 1NE ~bb\nO 9I C ^ o 1 1NE ~bb\nO 9I C ^ o 1 2 ~59\nT 5k P = qG 0 37E 5 37D 37E 8r 8s 5l C ^ a 3 1KX 37I 1L2 37J 2 ~59\nT 5k P = qs 0 8r 4 37E 8r 8s 5l C ^ a 3 1KX 37G 1L2 37H 2 ~59\nO 6l D ^\nO 7c C b S 37E o 1 1LQ ~7d\nO 6R C d D ^\nO 7c C b S 37D o 1 1LQ ~7d\nO 6R C d D ^\nO kA a 2 11W ~59 NL ~59\nO 8N a 9 11W ~59 1M1 37K 1M2 ~59 1M3 ~7d 1M4 ~7d 1M5 ~8O 1M6 ~8P 1M7 ~59 1M8 ~8P\nT 5k P = JR 1 8r 4 37M 8r 8s 5l C ^ a 7 1LQ ~59 2uM ~59 1Oi ~59 1L2 37T 1L6 37U 1M0 37V 2 ~7d o 1 2 ~7d\nO 9I C ^ o 2 1NE ~bb 2 ~59\nO 9I C ^ o 2 1NE ~bb 2 ~59\nO 9I C ^\nO 9I C ^\nO 9I C ^\nO 9I C ^\nO 9I C ^ o 1 1NE ~bb\nO 9I C ^\nO 6l D ^\nO 8N a 9 11W ~59 1M1 d6 1M2 ~59 1M3 37Z 1M4 ~7d 1M5 ~8O 1M6 ~8P 1M7 ~7d 1M8 ~8P o 1 1M9 ~7d\nO 9I C ^ o 1 2 ~59\nO 9I C ^\nO fx a 2 Ik ~59 1Oj ~59\nO 8N a 9 11W ~59 1M1 5a 1M2 ~59 1M3 ~7d 1M4 ~7d 1M5 ~8O 1M6 ~8P 1M7 ~7d 1M8 ~8P o 1 1M9 ~7d\nO 7c C ^ S 1O\nO 7c C ^ S 1O\nO 7c C ^ S 1O\nO 7c C ^ S 1O\nO 7c C ^ S 1O\nO 7c C ^ S 1O\nO 7c C ^ S 1O o 1 1L4 ~7d\nO 7c C ^ S 1O\nO 7c C ^ S 1O\nO 7c C ^ S 1O\nO 7c C ^ S 1O\nO 7c C ^ S 1O\nO 7c C ^ S 1O\nO 7c C ^ S 1O o 1 1L4 ~7d\nO 7c C ^ S 1O o 1 1L4 ~7d\nO 7c C ^ S 1O\nO 7c C ^ S 1O\nO 7c C ^ S 1O\nO kA a 2 11W ~59 NL ~59\nO 8N a 9 11W ~59 1M1 38j 1M2 ~59 1M3 ~7d 1M4 ~7d 1M5 ~8O 1M6 ~8P 1M7 ~59 1M8 ~8P\nO 7c C ^ S 1\nO 9I C ^ o 2 1NE ~bb 2 ~59\nO 9I C ^ o 1 2 ~59\nO 9I C ^ o 1 2 ~59\nO 9I C ^ o 1 2 ~59\nO 9I C ^ o 1 2 ~59\nO 9I C ^ o 1 2 ~59\nO 9I C ^ o 1 2 ~59\nO 9I C ^ o 1 2 ~59\nO 9I C ^ o 1 2 ~59\nO 9I C ^ o 1 2 ~59\nO 9I C ^ o 1 2 ~59\nO 7c C ^ S j o 1 1L4 ~7d\nT 5k P = IX 1 5l 2 38y 5l C ^ a a 1LQ ~59 2 ~59 1L2 395 1KY 396 2uN 397 1MY 398 1Nz 399 1Nq 39a 1L3 39b 1M0 39c\nO 9I C ^\nT 5k P = 2uO 1 bb 3 38A bb 5l C q vw - 2uO a g 2 ~59 1On ~bb 1Xk ~bb 1Xl ~9J 1KX 38T 1Xm 38U 1Xn 38V 1KY 38W 1Xo 38X 1LP 38Y 1Xp ~bb 2uP 38Z 2uQ 390 17Z 391 2uR 392 1LQ ~59\nT 5k P = J0 1 8O 3 38B 8O 5l C ^ a 6 1LQ ~59 2 ~59 1On ~59 1L2 38Q 1L5 38R 2uS 38S\nO 9I C ^ o 2 1NE ~bb 2 ~59\nO 9I C ^ o 1 2 ~59\nO 9I C ^ o 1 2 ~59\nO 9I C ^ o 2 1NE ~bb 2 ~59\nO 9I C ^ o 1 2 ~59\nO 9I C ^ o 1 2 ~59\nT 5k P = J9 1 5l 2 38I 5l C ^ a 8 1LQ ~59 2 ~59 1L2 38J 2Y 38K 1MY 38L 1Nz 38M 1L3 38N 1M0 38O\nO 9I C ^\nO 9I C ^ o 2 1NE ~bb 2 ~59\nO 9I C ^ o 1 1NE ~bb\nO 9F o 2 2 ~7d 1Ns 38P\nO 6l D ^\nO 6l D ^\nO 9I C q vw J9 1Nz\nO 9I C ^ o 1 1NE ~bb\nO 9I C ^\nO 6v D ^\nO bz C t 1NP F 394\nO b0 F 393 a 5 1LQ ~59 1 ~59 1MO ~59 2 ~7d RL ~9J\nO 9I C q tH 2uO 1Xn o 2 1NB ~bb 2 ~59\nO 9I C q tH 2uO 1KY o 2 1NB ~bb 2 ~59\nO 9I C q tH 2uO 1Xo o 2 1NB ~bb 2 ~59\nO 9I C q tH 2uO 1LP o 2 1NB ~bb 2 ~59\nO Jp\nO Jp\nO Jp\nO Jp\nO 9I C q tH 2uO 1Xm o 2 1NB ~bb 2 ~59\nO 9I C q 2uT 2uO 1KX o 1 2 ~59\nO 9I C ^\nO 9I C ^\nO 9I C ^\nO 9I C ^ o 1 1NE ~bb\nO 9F o 2 2 ~7d 1Ns 39d\nO b0 F Aj a 4 1LQ ~59 1 ~59 1MO ~59 2 ~59\nO 6l D ^\nO 6l D ^\nO 9I C q vw IX 1Nz\nO kA a 2 11W ~59 NL ~59\nO 8N a 9 11W ~59 1M1 39e 1M2 ~59 1M3 ~7d 1M4 ~7d 1M5 ~8O 1M6 ~8P 1M7 ~59 1M8 ~8P\nO kA a 2 11W ~59 NL ~59\nO 8N a 9 11W ~59 1M1 39g 1M2 ~59 1M3 ~7d 1M4 ~7d 1M5 ~8O 1M6 ~8P 1M7 ~59 1M8 ~8P\nO 9I C ^ o 1 2 ~59\nO IO C ^ a 7 1Xz 39n 1LQ ~59 1 ~59 1MO ~59 2 ~7d RL ~9J 1NO 39o\nO 9I C ^ o 1 2 ~59\nO 9I C ^ o 1 2 ~59\nO 9I C ^ o 1 2 ~59\nO 9I C q vw 1XG 1XF o 1 1NB ~bb\nO 9I C q or - Iu\nO kA a 2 11W ~59 NL ~59\nO 8N a 9 11W ~59 1M1 39p 1M2 ~59 1M3 ~7d 1M4 ~7d 1M5 ~8O 1M6 ~8P 1M7 ~59 1M8 ~8P\nO 9I C ^ o 3 1NE ~bb 2 ~59 1Nr ~9J\nO 9I C ^ o 1 2 ~59\nO 9I C ^ o 1 2 ~59\nO 9I C ^ o 1 2 ~59\nO 9I C ^ o 1 2 ~59\nO 9I C ^ o 1 2 ~59\nO 9I C ^ o 1 2 ~59\nO 9I C ^ o 1 2 ~59\nO 9I C ^ o 1 2 ~59\nT 5k P = Iq 1 5l 2 39A 5l C ^ a l 1LQ ~59 2 ~59 1L2 39E 1Po 39F eD 39G 1P8 39H 1P9 39I 1L7 39J 1PP 39K Ij 39L 1OV 39M 2uU 39N Ik 39O Il 39P Im 39Q In 39R Io 39S Ip 39T 1Nq 39U 1L3 39V 1M0 39W\nO 9I C ^ o 1 1Nr ~9J\nO 9I C ^ o 1 1NE ~bb\nO 9I C ^\nO 9I C ^ o 2 1NE ~bb 1Nr ~9J\nO 9I C ^\nO 9I C ^\nO 9I C ^\nO 9I C ^\nO 9I C ^\nO 9I C ^\nO 9I C ^\nO 9I C ^\nO 9I C ^\nO 9I C ^\nO 9I C ^\nO 9I C ^\nO 9I C ^\nO 9I C ^\nO 9I C ^\nO b0 F Aj a 4 1LQ ~59 1 ~59 1MO ~59 2 ~59\nO 6l D ^\nO 6l D ^\nO kA a 2 11W ~59 NL ~59\nO 8N a 9 11W ~59 1M1 39X 1M2 ~59 1M3 ~7d 1M4 ~7d 1M5 ~8O 1M6 ~8P 1M7 ~59 1M8 ~8P\nO 9I C ^ o 1 2 ~59\nO 9I C ^ o 2 1NE ~bb 2 ~59\nO 9I C ^\nO 9I C ^\nT 5k P = Ic 1 5l 2 3a3 5l C ^ a h 1LQ ~59 2 ~59 1L2 3a8 2uV 3a9 2uW 3aa 2uX 3ab 2uY 3ac 2uZ 3ad 2v0 3ae 2v1 3af 2v2 3ag 2v3 3ah 2v4 ~9J us 3ai 1Nq 3aj 1L3 3ak 1M0 3al\nO 9I C ^ o 2 1NE ~bb 2 ~59\nO 9I C ^ o 1 1NE ~bb\nO 9I C ^\nO 9I C ^\nO 9I C ^ o 1 1NE ~bb\nO 9I C ^\nO 9I C ^\nO 9I C ^\nO 9I C ^\nO 9I C ^\nO 9I C ^\nO 9I C ^\nO 9I C ^\nO 9I C ^\nO 9I C ^\nO b0 F Aj a 4 1LQ ~59 1 ~59 1MO ~59 2 ~59\nO 6l D ^\nO 6l D ^\nO 8N a 9 11W ~59 1M1 5a 1M2 ~59 1M3 ~7d 1M4 ~7d 1M5 ~8O 1M6 ~8P 1M7 ~7d 1M8 ~8P o 1 1M9 ~7d\nO 7c C ^ S 1I\nO 7c C ^ S 1I\nO 7c C ^ S 1I\nO 7c C ^ S 1I\nO 8N a 9 11W ~59 1M1 5a 1M2 ~59 1M3 ~7d 1M4 ~7d 1M5 ~8O 1M6 ~8P 1M7 ~7d 1M8 ~8P o 1 1M9 ~7d\nO kA a 2 11W ~59 NL ~59\nO 8N a 9 11W ~59 1M1 3as 1M2 ~59 1M3 ~7d 1M4 ~7d 1M5 ~8O 1M6 ~8P 1M7 ~59 1M8 ~8P\nT 5k P = E2 1 5l 2 3au 5l C ^ a 5 1LQ ~59 2 ~59 1L2 3bq 1L3 3br 1M0 3bs\nT 5k P = E3 1 5l 2 3av 5l C ^ a 5 1LQ ~59 2 ~59 1L2 3bn 1L3 3bo 1M0 3bp\nO 9I C ^ o 1 2 ~59\nO 9I C ^ o 1 2 ~59\nO 9I C ^ o 1 2 ~59\nO 9I C ^\nO 9I C ^\nO 9I C ^ o 1 2 ~59\nO 9I C ^ o 1 2 ~59\nO 9I C ^\nO 9I C ^\nO 9I C ^ o 2 1NE ~bb 2 ~59\nO 9I C ^ o 1 2 ~59\nT 5k P = Ee 1 5l 2 3aH 5l C q DS - Ee a 5 1LQ ~59 1KY 3bk 1L3 3bl 1M0 3bm 2 ~7d o 1 2 ~7d\nT 5k P = mR 1 5l 2 3aI 5l C o 1G a 6 1LQ ~59 2 ~59 1L2 3bg 1KY 3bh 1L3 3bi 1M0 3bj\nT 5k P = Ef 1 5l 2 3aJ 5l C ^ a 6 1LQ ~59 2 ~59 1L2 3bc 1Nx 3bd 1L3 3be 1M0 3bf\nT 5k P = Eg 1 9J 3 3aK 9J 5l C ^ a 7 1LQ ~59 2 ~59 1L2 3b7 11e 3b8 1NL 3b9 1L3 3ba 1M0 3bb\nO 9I C q DS - 2v5\nO 9I C q DS - 2v6\nO 9I C ^ o 1 2 ~59\nO 9I C ^ o 1 2 ~59\nO 9I C ^\nO 9I C ^ o 1 2 ~59\nO 9I C ^ o 1 2 ~59\nO 9I C ^ o 2 1NE ~bb 2 ~59\nT Gz P = Ex 1 1k0 6 3aT 1k0 59 1jm Fp 5l C ^ a h 1WF bO 1WG ~8P 1WD 1k1 1WH ~8O 1WI ~9J 1WJ ~9J 1WK ~8O 1WL 59 1WM bP 1LQ ~59 2 ~59 1L6 bR 1LM cS Ey 3b4 Ez 3b5 EA 3b6 1KX GE\nO 3aT a 4 1Xa ~59 1Xb ~59 1N1 3aT 1Xc ~5j o 1 1TK ~59\nO 3aT a 4 1Xa ~59 1Xb ~59 1N1 3aT 1Xc ~5j o 1 1TK ~59\nO 3aT a 4 1Xa ~59 1Xb ~59 1N1 3aT 1Xc ~5j o 1 1TK ~59\nT 5k P = EB 1 5l 2 3aX 5l C ^ a 6 1LQ ~59 2 ~59 1L2 3b0 10T 3b1 1L3 3b2 1M0 3b3\nO 9I C ^ o 1 2 ~59\nO 9I C ^ o 3 1NE ~bb 2 ~59 1Nr ~9J\nO 9I C ^\nO 9I C ^\nO 6l D ^\nO 6l D ^\nO GI I k 3aU R k 3aU a 8 1Ns ~7d 1Nt ~7d 1Ny ~7d 2 ~7d 1X8 ~8P 1Nz ~8P 11W ~59 1X9 ~59\nO GI I k 3aV R k 3aV a 8 1Ns ~7d 1Nt ~7d 1Ny ~7d 2 ~7d 1X8 ~8P 1Nz ~8P 11W ~59 1X9 ~59\nO GI I k 3aW R k 3aW a 8 1Ns ~7d 1Nt ~7d 1Ny ~7d 2 ~7d 1X8 ~8P 1Nz ~8P 11W ~59 1X9 ~59\nO 9I C ^ o 1 1NB ~bb\nO 9I C ^ o 2 1NB ~bb 2 ~59\nO 9I C ^\nO 6l D ^\nO 6l D ^\nO 9I C ^\nO 9I C ^ o 1 2 ~59\nO 6l D ^\nO 6l D ^\nO 9I C ^ o 1 1NE ~bb\nO 9I C ^\nO 6l D ^\nO 6l D ^\nO 9I C ^\nO 6l D ^ Z k ~9J\nO 6l D ^ Z k ~7d\nO 9I C ^\nO 6l D ^\nO 6l D ^\nO 9I C ^\nO 6l D ^\nO 6l D ^\nO kA a 2 11W ~59 NL ~59\nO 8N a 9 11W ~59 1M1 3bt 1M2 ~59 1M3 ~7d 1M4 ~7d 1M5 ~8O 1M6 ~8P 1M7 ~59 1M8 ~8P\nO 7c C ^ S 6 o 1 2 ~7d\nO 9I C ^ o 1 1NE ~bb\nT 5k P = t9 1 3cl 3 3bx 3cl 5l C ^ a 3 1LQ ~59 31 3cm 2 ~7d o 1 2 ~7d\nT 5k P = tb 1 3c6 4 3by 3c6 3c7 5l C ^ a 3 1LQ ~59 2v7 3bE 2 ~7d o 1 2 ~7d\nT 5k P = td 1 3bW 4 3bz 3bW 3bD 5l C ^ a 3 1LQ ~59 31 3bv 2 ~7d o 1 2 ~7d\nT 5k P = te 1 3bC 4 3bA 3bC 3bD 5l C ^ a 3 1LQ ~59 32 3bE 2 ~7d o 1 2 ~7d\nO 9I C ^\nT 5k P = te 1 3bD 3 3bC 3bD 5l C ^ a g 1LQ ~59 2v8 59 1L2 3bJ 32 3bK 13k 3bL 1OV 3bM 1PU 3bN 1Qq 3bO 1OQ 3bP 1PP 3bQ 1L7 3bR us 3bS 1P8 3bT 1P9 3bU 1MR 3bV 2 ~7d o 1 2 ~7d\nT 5k P = t8 1 5l 2 3bD 5l C ^ a 6 1LQ ~59 2 ~59 31 3bF 32 3bG 1L3 3bH 1M0 3bI\nO 7c C ^ S 6 o 1 2 ~7d\nO 9I C ^ o 2 1NE ~bb 2 ~59\nO 9I C ^ o 2 1NE ~bb 2 ~59\nO 6l D ^\nO 6l D ^\nO 9I C ^ o 2 1NE ~bb 2 ~59\nO 9I C ^ o 1 1NE ~bb\nO 9I C ^ o 2 1NE ~bb 2 ~59\nO 9I C ^ o 2 1NE ~bb 2 ~59\nO 9I C ^ o 2 1NE ~bb 2 ~59\nO 9I C ^ o 1 2 ~59\nO 9I C ^ o 2 1NE ~bb 2 ~59\nO 9I C ^ o 1 2 ~59\nO 9I C ^\nO 9I C ^ o 2 1NE ~bb 2 ~59\nO 9I C ^\nO 9I C ^\nO 9I C ^\nT 5k P = td 1 3bD 3 3bW 3bD 5l C ^ a b 1LQ ~59 1L2 3bX 13o 3bY 1PV 3bZ 1Qq 3c0 1OQ 3c1 us 3c2 1P8 3c3 1P9 3c4 1MR 3c5 2 ~7d o 1 2 ~7d\nO 9I C ^ o 2 1NE ~bb 2 ~59\nO 9I C ^ o 1 2 ~59\nO 9I C ^ o 1 2 ~59\nO 9I C ^ o 1 2 ~59\nO 9I C ^ o 1 1NE ~bb\nO 9I C ^ o 2 1NE ~bb 2 ~59\nO 9I C ^\nO 9I C ^\nO 9I C ^\nT 5k P = tc 1 3c7 3 3c6 3c7 5l C ^ a 8 1LQ ~59 2 ~59 1L2 3cf 2v7 3cg 32 3ch 1Qq 3ci 1cU 3cj 1cV 3ck\nT 5k P = tb 1 5l 2 3c7 5l C ^ a 9 1LQ ~59 2 ~59 1L2 3c8 32 3c9 1Qq 3ca 1cU 3cb 1cV 3cc 1L3 3cd 1M0 3ce\nO 9I C ^ o 2 1NE ~bb 2 ~59\nO 9I C ^ o 2 1NE ~bb 2 ~59\nO 9I C ^ o 1 2 ~59\nO 9I C ^ o 1 2 ~59\nO 9I C ^ o 1 2 ~59\nO 6l D ^\nO 6l D ^\nO 9I C ^ o 1 1NE ~bb\nO 9I C ^\nO 9I C ^ o 1 1NE ~bb\nO 9I C ^\nO 9I C ^\nO 9I C ^\nT 5k P = t9 1 5l 2 3cl 5l C ^ a 9 1LQ ~59 2 ~59 1L2 3cn 31 3co 1Qq 3cp 1cU 3cq 1cV 3cr 1L3 3cs 1M0 3ct\nO 9I C ^ o 1 1NE ~bb\nO 9I C ^ o 2 1NE ~bb 2 ~59\nO 9I C ^ o 2 1NE ~bb 2 ~59\nO 9I C ^ o 1 2 ~59\nO 9I C ^ o 1 2 ~59\nO 9I C ^ o 1 2 ~59\nO 6l D ^\nO 6l D ^\nO kA a 2 11W ~59 NL ~59\nO 8N a 9 11W ~59 1M1 3cu 1M2 ~59 1M3 ~7d 1M4 ~7d 1M5 ~8O 1M6 ~8P 1M7 ~59 1M8 ~8P\nO kA a 2 11W ~59 NL ~59\nO 8N a 9 11W ~59 1M1 3cw 1M2 ~59 1M3 ~7d 1M4 ~8O 1M5 ~8O 1M6 ~8P 1M7 ~59 1M8 ~8P\nT 5k P = DL 1 3cB 6 3cy 3cB 3cC 8r 8s 5l C ^ a 3 1LQ ~59 1M0 3cD 2 ~7d o 1 2 ~7d\nO 9I C ^ o 1 2 ~59\nO 9I C ^\nT 5k P = qg 0 8r 4 3cB 8r 8s 5l C ^ a 3 1KX 3cG 1L2 3cH 2 ~59\nT 5k P = qp 0 8r 4 3cC 8r 8s 5l C ^ a 3 1KX 3cE 1L2 3cF 2 ~59\nO 6l D ^\nO 7c C b S 3cC o 1 1LQ ~7d\nO 6R C d D ^\nO 7c C b S 3cB o 1 1LQ ~7d\nO 6R C d D ^\nO kA a 2 11W ~59 NL ~59\nO 8N a 9 11W ~59 1M1 3cI 1M2 ~59 1M3 ~7d 1M4 ~7d 1M5 ~8O 1M6 ~8P 1M7 ~59 1M8 ~8P\nO 9I C ^ o 1 2 ~59\nT 5k P = Bq 1 3dn 3 3cL 3dn 5l C ^ a 9 1LQ ~59 2 ~59 1L2 3do 1L9 3dp 10R 3dq 11f 3dr 117 3ds 11q 3dt 11d 3du\nO 9I C ^ o 1 2 ~59\nO 9I C ^ o 1 2 ~59\nO 9I C ^ o 1 2 ~59\nO 9I C ^ o 1 2 ~59\nT 5k P = BY 1 5l 2 3cQ 5l C ^ a e 1LQ ~59 2 ~59 1L2 3dc 1KY 3dd 10L 3de 2v9 3df 2va 3dg BF 3dh 2vb 3di 2vc 3dj BG 3dk 1L3 3dl 1M0 3dm 1L5 ~7d\nO 9I C o 1C o 1 2 ~59\nO 9I C ^\nO 9I C ^ o 2 1NE ~bb 2 ~59\nO 9I C q Dh - 2vd\nO 9I C q Dh - 2ve o 1 2 ~59\nO 9I C ^ o 2 2 ~59 1Nr ~9J\nO 9I C ^\nO 9I C q Dh - 2vf\nO 9I C q Dh - 2vg\nO 9I C ^\nO 9I C ^ o 2 1NE ~bb 2 ~59\nO 9I C ^ o 2 1NE ~bb 2 ~59\nO 9I C ^ o 2 1NE ~bb 2 ~59\nO 9I C ^\nO 9I C ^ o 2 2 ~59 1Nr ~9J\nO 9I C ^ o 1 2 ~59\nO 9I C ^ o 1 2 ~59\nO 9I C ^ o 2 1NE ~bb 2 ~59\nO 9I C ^ o 1 2 ~59\nO 9I C ^ o 1 1NE ~bb\nO 9I C ^ o 2 1NE ~bb 2 ~59\nO 9I C ^ o 1 1NE ~bb\nO 9I C ^\nO 9I C ^\nO 9I C ^ o 1 2 ~59\nO 9I C ^ o 1 2 ~59\nO 9I C ^ o 1 2 ~59\nO 9I C ^ o 1 2 ~59\nO 9I C ^\nO 9I C ^ o 1 2 ~59\nO 6l D ^ I k ~9J\nO 6l D ^ I k ~7d\nT 5k P = Bp 1 5l 2 3dn 5l C ^ a h 1LQ ~59 2 ~59 1L2 3dv 2vh 3dw 2vi 3dx 2vj 3dy 2vk 3dz 2vl 3dA 2vm 3dB 2vn 3dC 2vo 3dD 2vp 3dE 2vq 3dF 2vr 3dG 2vs 3dH 1L3 3dI 1M0 3dJ\nO 9I C ^\nO 9I C ^\nO 9I C ^\nO 9I C ^\nO 9I C ^\nO 9I C ^\nO 9I C ^\nO 9I C ^ o 1 2 ~59\nO 9I C ^ o 1 2 ~59\nO 9I C ^ o 1 2 ~59\nO 9I C ^ o 1 2 ~59\nO 9I C ^ o 1 2 ~59\nO 9I C ^ o 1 2 ~59\nO 9I C ^ o 1 2 ~59\nO 9I C ^ o 2 1NE ~bb 2 ~59\nO 9I C ^ o 1 2 ~59\nO 9I C ^ o 1 2 ~59\nO 9I C ^ o 1 2 ~59\nO 9I C ^ o 2 1NE ~bb 2 ~59\nO 9I C ^ o 1 2 ~59\nO 6l D ^\nO 6l D ^\nO kA a 2 11W ~59 NL ~59\nO 8N a 9 11W ~59 1M1 3dK 1M2 ~59 1M3 ~7d 1M4 ~7d 1M5 ~8O 1M6 ~8P 1M7 ~59 1M8 ~8P\nO 9I C ^ o 1 2 ~59\nO 9I C ^ o 1 2 ~59\nO 9I C ^ o 1 2 ~59\nO 9I C ^ o 1 2 ~59\nO 9I C o 1B o 1 1NE ~bb\nO 9I C ^ o 1 2 ~59\nO 9I C ^\nO 9I C ^ o 2 1NE ~bb 2 ~59\nO 9I C ^ o 2 1NE ~bb 2 ~59\nO 9I C ^ o 2 1NE ~bb 2 ~59\nO 9I C ^ o 1 2 ~59\nO 9I C ^ o 1 2 ~59\nO kA a 2 11W ~59 NL ~59\nO 8N a 9 11W ~59 1M1 3dY 1M2 ~59 1M3 ~7d 1M4 ~7d 1M5 ~8O 1M6 ~8P 1M7 ~59 1M8 ~8P\nT hS P = Bx 1 3ev 3 3e0 3ev 5l C ^ a j 1LQ ~59 2 ~59 2vt ~8P 11X ~59 2vu ~59 2vv ~5j 2vw ~8P 2vx ~7d 2vy ~8P 2vz 3eK 2vA 3eL 2vB 3eM 2vC 3eN 2vD 3eO 2vE 3eP 20k 3eQ 2vF 3eR 1MQ ~i2 1P3 ~i3\nT hS P = By 1 3e0 4 3e1 3e0 3ev 5l C ^ a c 1LQ ~59 2 ~59 2vw ~8P 2vG 3ew 2vC 3ex 2vD 3ey 2vE 3ez 20k 3eA 2vF 3eB 2vH 3eC 1MQ ~i2 1P3 ~i3\nO 9I C ^\nO 9I C ^\nO 9I C ^ o 2 1NE ~bb 2 ~59\nO 9I C ^\nO 9I C ^\nO 9I C ^ o 1 2 ~59\nT 5k P = D3 1 2UV 3 3e8 2UV 5l C ^ a n 1LQ ~59 1L2 3eb 2rg 3ec 1L6 3ed 2vI 3ee 2vJ 3ef 2vK 3eg 2vL ~ns 2vM 3eh 2vN 3ei 2vO 3ej 2vP 3ek 2vQ 3el 2vR 3em 2vS 3en 2vT 3eo 2vU 3ep 2vV 3eq 2vW 3er 2vX 3es 1Nj 3et 2vY 3eu 2 ~7d o 1 2 ~7d\nT 5k P = D4 1 3e8 4 3e9 3e8 2UV 5l C ^ a 3 1LQ ~59 2vP 3ea 2 ~7d o 1 2 ~7d\nO 9I C ^ o 1 1NB ~bb\nO 9I C ^ o 2 1NB ~bb 1NE ~bb\nO 9I C ^ o 3 1NB ~bb 1NE ~bb 2 ~59\nO 9I C ^\nO 9I C ^\nO 9I C ^\nO 9I C ^ o 2 1NE ~bb 2 ~59\nO 9I C ^ o 1 2 ~59\nO 9I C ^ o 1 2 ~59\nO 9I C ^ o 1 1Nr ~9J\nO 9I C ^ o 1 1Nr ~9J\nO 9I C ^\nO 9I C ^ o 1 1NE ~bb\nO 9I C ^ o 1 1NE ~bb\nO 9I C ^ o 1 1NE ~bb\nO 9I C ^ o 1 1Nr ~9J\nO 9I C ^\nO 9I C ^\nO 9I C ^\nO 9I C ^\nO 9I C ^\nT 5k P = Bu 1 5l 2 3ev 5l C ^ a 9 1LQ ~59 2 ~59 1L2 3eD 1KY 3eE 2vZ 3eF 1L0 3eG 10R 3eH 1L3 3eI 1M0 3eJ\nO 9I C ^\nO 9I C ^ o 1 2 ~59\nO 9I C ^ o 1 2 ~59\nO 9I C ^ o 1 2 ~59\nO 9I C ^ o 1 2 ~59\nO 9I C ^ o 1 2 ~59\nO 9I C ^\nO 9I C ^ o 2 1NB ~bb 2 ~59\nO 9I C ^\nO 9I C ^ o 1 2 ~59\nO 9I C ^\nO 9I C ^ o 1 2 ~59\nO 6l D ^ Z k ~9J\nO 6l D ^ Z k ~7d\nO 9I C ^ o 1 2 ~59\nO 9I C ^ o 1 2 ~59\nO 9I C ^ o 1 2 ~59\nO 9I C ^ a 1 1Nz ~8P o 1 2 ~59\nO 9I C ^ a 1 1Nz ~8P o 1 2 ~59\nO 9I C ^ a 1 1Nz ~8P o 1 2 ~59\nO 9I C ^ a 1 1Nz ~8P o 1 2 ~59\nO 9I C ^ a 1 1Nz ~8P o 1 2 ~59\nO kA a 2 11W ~59 NL ~59\nO 8N a 9 11W ~59 1M1 3eS 1M2 ~59 1M3 ~7d 1M4 ~7d 1M5 ~8O 1M6 ~8P 1M7 ~59 1M8 ~8P\nO 9I C ^ o 2 1NE ~bb 2 ~59\nO 9I C ^ o 2 1NE ~bb 2 ~59\nO 9I C ^ o 2 1NE ~bb 2 ~59\nO kA a 2 11W ~59 NL ~59\nO 8N a 9 11W ~59 1M1 3eX 1M2 ~59 1M3 ~7d 1M4 ~7d 1M5 ~8O 1M6 ~8P 1M7 ~59 1M8 ~8P\nT 5k P = C9 1 3fC 6 3eZ 3fC 3fD 8r 8s 5l C ^ a 2 1LQ ~59 2 ~59\nO 3cQ a 6 2w0 ~59 2w1 ~7d 2w2 ~7d 2w3 ~59 2w4 ~7d 2w5 ~7d\nO 3cQ a 6 2w0 ~59 2w1 ~5j 2w2 ~5j 2w3 ~59 2w4 ~59 2w5 ~59\nO 9I C ^ o 1 2 ~59\nO 9I C ^ o 2 1NE ~bb 2 ~59\nT 5k P = CM 1 5l 2 3f4 5l C ^ a c 1LQ ~59 1L2 3ft 1L6 3fu 10L 3fv 1Nk 3fw 2w6 3fx 31 3fy 2w7 3fz 1L3 3fA 1M0 3fB 2 ~7d 1L5 ~7d o 1 2 ~7d\nT 5k P = CN 1 5l 2 3f5 5l C ^ a d 1LQ ~59 1L2 3fi 2iv 3fj 1L6 3fk 2w8 3fl 2w9 3fm 1Qo 3fn 2wa 3fo 2wb 3fp 2wc 3fq 1L3 3fr 1M0 3fs 2 ~7d o 1 2 ~7d\nT 5k P = CO 1 8O 3 3f6 8O 5l C ^ a d 1LQ ~59 1L2 3f7 2a4 3f8 2wd 3f9 1Nn 3fa 1L9 3fb 1L6 3fc 1Qq 3fd 2we 3fe 2wf 3ff 1L3 3fg 1M0 3fh 2 ~7d o 1 2 ~7d\nO 9I C ^ o 2 1NB ~bb 1NE ~bb\nO 9I C ^\nO 9I C ^ o 1 1NE ~bb\nO 9I C ^ o 1 1NB ~bb\nO 9I C ^\nO 9I C ^\nO 9I C ^ o 1 1NE ~bb\nO 9I C ^\nO 9I C ^ o 1 1NB ~bb\nO 6l D ^\nO 6l D ^\nO 9I C ^\nO 9I C ^\nO 9I C ^\nO 9I C ^\nO 9I C ^\nO 9I C ^\nO 9I C ^\nO 9I C ^\nO 9I C ^\nO 6l D ^\nO 6l D ^\nO 9I C ^ o 2 1NE ~bb 2 ~59\nO 9I C ^ o 1 2 ~59\nO 9I C ^\nO 9I C ^ o 2 1NE ~bb 2 ~59\nO 9I C ^ o 1 2 ~59\nO 9I C ^ o 2 1NE ~bb 2 ~59\nO 9I C ^\nO 6l D ^\nO 6l D ^\nT 5k P = C8 1 3fD 5 3fC 3fD 8r 8s 5l C ^ a 2 1LQ ~59 2 ~59\nT 5k P = C7 1 8r 4 3fD 8r 8s 5l C ^ a 3 1LQ ~59 2 ~59 1M0 3fE\nO 6l D ^\nO kA a 2 11W ~59 NL ~59\nO 8N a 9 11W ~59 1M1 3fF 1M2 ~59 1M3 ~7d 1M4 ~7d 1M5 ~8O 1M6 ~8P 1M7 ~59 1M8 ~8P\nT 5k P = Ca 1 3fC 6 3fH 3fC 3fD 8r 8s 5l C ^ a 2 1LQ ~59 2 ~59\nT 5k P = Cb 1 3fD 6 3fI 3fD 3ga 8r 8s 5l C ^ a 2 1LQ ~59 2 ~59\nT 5k P = Cc 1 3fD 5 3fJ 3fD 8r 8s 5l C ^ a 2 1LQ ~59 2 ~59\nT 5k P = Cd 1 3fD 5 3fK 3fD 8r 8s 5l C ^ a 2 1LQ ~59 2 ~59\nT 5k P = Ce 1 152 5 3fL 152 8r 8s 5l C ^ a 4 1LQ ~59 2 ~59 1L2 3g8 1M0 3g9\nT 5k P = Cf 1 3fL 6 3fM 3fL 152 8r 8s 5l C ^ a 2 1LQ ~59 2 ~59\nT 5k P = Cg 1 3fL 6 3fN 3fL 152 8r 8s 5l C ^ a 2 1LQ ~59 2 ~59\nT 5k P = Ch 1 3fL 6 3fO 3fL 152 8r 8s 5l C ^ a 2 1LQ ~59 2 ~59\nT 5k P = Ci 1 3fL 6 3fP 3fL 152 8r 8s 5l C ^ a 2 1LQ ~59 2 ~59\nT 5k P = Cj 1 3fL 6 3fQ 3fL 152 8r 8s 5l C ^ a 2 1LQ ~59 2 ~59\nT 5k P = Ck 1 3fL 6 3fR 3fL 152 8r 8s 5l C ^ a 2 1LQ ~59 2 ~59\nT 5k P = Cm 1 3fL 6 3fS 3fL 152 8r 8s 5l C ^ a 2 1LQ ~59 2 ~59\nT 5k P = Cn 1 3fL 6 3fT 3fL 152 8r 8s 5l C ^ a 2 1LQ ~59 2 ~59\nT 5k P = Co 1 3fL 6 3fU 3fL 152 8r 8s 5l C ^ a 2 1LQ ~59 2 ~59\nT 5k P = Cp 1 3fL 6 3fV 3fL 152 8r 8s 5l C ^ a 2 1LQ ~59 2 ~59\nT 5k P = Cq 1 3fL 6 3fW 3fL 152 8r 8s 5l C ^ a 2 1LQ ~59 2 ~59\nT 5k P = Cr 1 3fL 6 3fX 3fL 152 8r 8s 5l C ^ a 2 1LQ ~59 2 ~59\nT 5k P = Cs 1 3fL 6 3fY 3fL 152 8r 8s 5l C ^ a 3 1LQ ~59 2 ~59 1L2 3g7\nT 5k P = Ct 1 3fY 7 3fZ 3fY 3fL 152 8r 8s 5l C ^ a 2 1LQ ~59 2 ~59\nT 5k P = Cu 1 3fY 7 3g0 3fY 3fL 152 8r 8s 5l C ^ a 2 1LQ ~59 2 ~59\nT 5k P = Cv 1 3fY 7 3g1 3fY 3fL 152 8r 8s 5l C ^ a 4 1LQ ~59 2 ~59 1L2 3g5 1L6 3g6\nT 5k P = Cw 1 3fY 7 3g2 3fY 3fL 152 8r 8s 5l C ^ a 2 1LQ ~59 2 ~59\nT 5k P = Cx 1 3fY 7 3g3 3fY 3fL 152 8r 8s 5l C ^ a 2 1LQ ~59 2 ~59\nT 5k P = Cy 1 3fY 7 3g4 3fY 3fL 152 8r 8s 5l C ^ a 2 1LQ ~59 2 ~59\nO 9I C ^ o 1 1NB ~bb\nO 9I C ^\nO 9I C ^ o 1 1NB ~bb\nO 9I C ^ o 2 1NB ~bb 1NE ~bb\nO 6l D ^\nT 5k P = qq 0 8r 4 3ga 8r 8s 5l C ^ a 3 1KX 3gb 1L2 3gc 2 ~59\nO 7c C b S 3ga o 1 1LQ ~7d\nO 6R C d D ^\nO kA a 2 11W ~59 NL ~59\nO 8N a 9 11W ~59 1M1 3gd 1M2 ~59 1M3 ~7d 1M4 ~7d 1M5 ~8O 1M6 ~8P 1M7 ~59 1M8 ~8P\nO 9I C ^ o 1 2 ~59\nO 9I C ^\nO 9I C ^ o 1 2 ~59\nO 9I C ^ o 1 2 ~59\nO 9I C o 1w o 1 2 ~59\nO 9I C ^ o 1 2 ~59\nO kA a 2 11W ~59 NL ~59\nO 8N a 9 11W ~59 1M1 3gl 1M2 ~59 1M3 ~7d 1M4 ~7d 1M5 ~8O 1M6 ~8P 1M7 ~59 1M8 ~8P\nO 9I C ^ o 2 1NE ~bb 2 ~59\nO 9I C ^ o 1 2 ~59\nO 9I C ^ o 1 2 ~59\nO 9I C ^\nO kA a 2 11W ~59 NL ~59\nO 8N a 9 11W ~59 1M1 3gr 1M2 ~59 1M3 ~7d 1M4 ~7d 1M5 ~8O 1M6 ~8P 1M7 ~59 1M8 ~8P\nO 9I C ^ o 2 1NE ~bb 2 ~59\nO 7c C ^ S V\nO 7c C ^ S V\nO 9I C ^ o 1 2 ~59\nO 9I C ^ o 2 1NE ~bb 2 ~59\nO 9I C ^ o 2 1NE ~bb 2 ~59\nO 9I C ^ o 1 2 ~59\nO kA a 2 11W ~59 NL ~59\nO 8N a 9 11W ~59 1M1 3gA 1M2 ~59 1M3 ~7d 1M4 ~7d 1M5 ~8O 1M6 ~8P 1M7 ~59 1M8 ~8P\nO 9I C ^\nO 9I C ^\nO kA a 2 11W ~59 NL ~59\nO 8N a 9 11W ~59 1M1 3gE 1M2 ~59 1M3 ~7d 1M4 ~7d 1M5 ~8O 1M6 ~8P 1M7 ~59 1M8 ~8P\nO kA a 2 11W ~59 NL ~59\nO 8N a 9 11W ~59 1M1 3gG 1M2 ~59 1M3 ~7d 1M4 ~7d 1M5 ~8O 1M6 ~8P 1M7 ~59 1M8 ~8P\nO 1CZ C t 2sf o 1 1Ws 3gU\nO 9I C ^\nT 5k P = B3 1 9J 3 3gK 9J 5l C ^ a 6 1LQ ~59 1WN ~db 1XA 3gR 1L3 3gS 1M0 3gT 2 ~7d o 1 2 ~7d\nO 9I C ^\nO 9I C ^\nO 9I C ^\nO 9I C ^\nO 9I C ^ o 1 2 ~59\nO 9I C ^ o 2 1NE ~bb 2 ~59\nO 9I C ^\nO 6l D ^ Z k ~9J\nO 6l D ^ Z k ~7d\nO oA C q pA 1dt ce S ~oB o 1 1LQ ~7d\nO kA a 2 11W ~59 NL ~59\nO 8N a 9 11W ~59 1M1 3gV 1M2 ~59 1M3 ~7d 1M4 ~8O 1M5 ~8O 1M6 ~8P 1M7 ~59 1M8 ~8P\nO 9I C ^ o 1 2 ~59\nO 9I C ^ o 1 2 ~59\nO 9I C ^ o 1 2 ~59\nO 9I C ^ o 1 2 ~59\nO kA a 2 11W ~59 NL ~59\nO 8N a 9 11W ~59 1M1 3h1 1M2 ~59 1M3 ~7d 1M4 ~7d 1M5 ~8O 1M6 ~8P 1M7 ~59 1M8 ~8P\nO 9I C ^ o 1 2 ~59\nO 9I C ^ o 3 1NE ~bb 2 ~59 1Nr ~9J\nO 9I C ^ o 3 1NE ~bb 2 ~59 1Nr ~9J\nO 9I C ^ o 1 2 ~59\nT 5k P = A8 1 5l 2 3h7 5l C ^ a 5 1LQ ~59 1KY 3is 1L3 3it 1M0 3iu 2 ~7d o 1 2 ~7d\nO 9I C ^ o 1 2 ~59\nO 9I C ^\nO 9I C ^\nO 9I C ^ o 1 2 ~59\nO 9I C ^\nO 9I C ^ o 2 2 ~59 1Nr ~9J\nT 5k P = Ag 1 bb 3 3he bb 5l C ^ a g 2 ~59 1On ~bb 1Xk ~bb 1Xl ~9J 1KX 3ig 1Xm 3ih 1Xn 3ii 1KY 3ij 1Xo 3ik 1LP 3il 1Xp ~bb Il 3im 1RK 3in 2wg 3io 2wh 3ip 1LQ ~59\nT 5k P = Ah 1 bb 3 3hf bb 5l C ^ a l 2 ~59 1On ~bb 1Xk ~bb 1Xl ~9J 1KX 3hZ 1Xm 3i0 1Xn 3i1 1KY 3i2 1Xo 3i3 1LP 3i4 1Xp ~bb zE 3i5 10G 3i6 2o 3i7 2wi 3i8 2wj 3i9 1RJ 3ia 2wk 3ib 2wl 3ic 2wm 3id 1LQ ~59\nT 5k P = Ai 1 bb 3 3hg bb 5l C ^ a h 2 ~59 1On ~bb 1Xk ~bb 1Xl ~9J 1KX 3hM 1Xm 3hN 1Xn 3hO 1KY 3hP 1Xo 3hQ 1LP 3hR 1Xp ~bb 1Rr 3hS 1Rs 3hT 1Rx 3hU 2wn 3hV 2wo 3hW 1LQ ~59\nT 5k P = Al 1 3hf 4 3hh 3hf bb 5l C ^ a 4 1LQ ~59 2 ~59 2wp 3hK 1L3 3hL\nO 9I C ^ o 2 2 ~59 1Nr ~9J\nO 9I C ^ o 1 2 ~59\nO 9I C ^ o 1 2 ~59\nO 9I C ^ o 1 2 ~59\nO 9I C ^\nO 9I C ^\nO 9I C ^\nO 9I C ^ o 2 1NE ~bb 2 ~59\nO 9I C ^ o 3 1NE ~bb 2 ~59 1Nr ~9J\nO 9I C ^ o 1 1Nr ~9J\nO 9I C ^ o 2 1NE ~bb 1Nr ~9J\nO 9I C ^ o 1 2 ~59\nO 9I C ^\nO 9I C ^ o 1 2 ~59\nO 9I C ^ o 1 2 ~59\nO 9I C ^ o 1 2 ~59\nO 9I C ^ o 1 2 ~59\nT 5k P = AG 1 5l 2 3hz 5l C ^ a a 1LQ ~59 2 ~59 1L2 3hB 1L7 3hC 1KY 3hD 2wq 3hE VT 3hF zv 3hG 1L3 3hH 1M0 3hI\nO 9I C ^\nO 9I C ^ o 1 1Nr ~9J\nO 9I C ^\nO 9I C ^\nO b0 F 3hJ a 5 1LQ ~59 1 ~59 1MO ~59 2 ~59 RL ~9J\nO 9I C ^ o 1 2 ~59\nO 9I C ^ o 1 2 ~59\nO 6l D ^\nO 6l D ^\nO 9I C q zv AG 2wq o 2 2 ~59 1Nr ~9J\nO 9I C ^ o 2 1NE ~bb 2 ~59\nO 6l D ^\nO bz C t 1NP F 3hY\nO b0 F 3hX a 5 1LQ ~59 1 ~59 1MO ~59 2 ~7d RL ~9J\nO 9I C q tH Ai 1Xn o 2 1NB ~bb 2 ~59\nO 9I C q tH Ai 1KY o 2 1NB ~bb 2 ~59\nO 9I C q tH Ai 1Xo o 2 1NB ~bb 2 ~59\nO 9I C q tH Ai 1LP o 2 1NB ~bb 2 ~59\nO Jp\nO Jp\nO Jp\nO Jp\nO Jp\nO 9I C q tH Ai 1Xm o 2 1NB ~bb 2 ~59\nO 9I C q 2wr Ai 1KX o 1 2 ~59\nO bz C t 1NP F 3if\nO b0 F 3ie a 5 1LQ ~59 1 ~59 1MO ~59 2 ~7d RL ~9J\nO 9I C q tH Ah 1Xn o 2 1NB ~bb 2 ~59\nO 9I C q tH Ah 1KY o 2 1NB ~bb 2 ~59\nO 9I C q tH Ah 1Xo o 2 1NB ~bb 2 ~59\nO 9I C q tH Ah 1LP o 2 1NB ~bb 2 ~59\nO Jp\nO Jp\nO Jp\nO Jp\nO Jp\nO Jp\nO Jp\nO Jp\nO Jp\nO 9I C q tH Ah 1Xm o 2 1NB ~bb 2 ~59\nO 9I C q 2ws Ah 1KX o 2 1NE ~bb 2 ~59\nO bz C t 1NP F 3ir\nO b0 F 3iq a 5 1LQ ~59 1 ~59 1MO ~59 2 ~7d RL ~9J\nO 9I C q tH Ag 1Xn o 2 1NB ~bb 2 ~59\nO 9I C q tH Ag 1KY o 2 1NB ~bb 2 ~59\nO 9I C q tH Ag 1Xo o 2 1NB ~bb 2 ~59\nO 9I C q tH Ag 1LP o 2 1NB ~bb 2 ~59\nO Jp\nO Jp\nO Jp\nO Jp\nO 9I C q tH Ag 1Xm o 2 1NB ~bb 2 ~59\nO 9I C q 2wt Ag 1KX o 2 1NE ~bb 2 ~59\nO 9I C ^\nO 6l D ^ Z k ~9J\nO 6l D ^ Z k ~7d\nO kA a 2 11W ~59 NL ~59\nO 8N a 9 11W ~59 1M1 3iv 1M2 ~59 1M3 ~7d 1M4 ~7d 1M5 ~8O 1M6 ~8P 1M7 ~59 1M8 ~8P\nT 5k P = 14 1 bb 3 3ix bb 5l C ^ a f 2 ~59 1On ~bb 1Xk ~bb 1Xl ~9J 1KX 3jq 1Xm 3jr 1Xn 3js 1KY 3jt 1Xo 3ju 1LP 3jv 1Xp ~bb 2wu 3jw 2wv 3jx 1Om 3jy 1LQ ~59\nO 9I C ^\nT 5k P = za 1 5l 2 3iz 5l C ^ a h 1LQ ~59 2 ~59 1L2 3jb 2ww 3jc 2wx 3jd 2wy 3je 2wz 3jf 2wA 3jg 2wB 3jh 2wC 3ji 2wD 3jj 29s 3jk 2wE 3jl 2wF 3jm 1Nq 3jn 1L3 3jo 1M0 3jp\nO 9I C ^ o 2 1NE ~bb 2 ~59\nO 9I C ^ o 1 2 ~59\nT 5k P = zd 1 5l 2 3iC 5l C ^ a b 1LQ ~59 2 ~59 1L2 3j2 24E 3j3 19o 3j4 2wG 3j5 2wH 3j6 2wI 3j7 2wJ 3j8 1L3 3j9 1M0 3ja\nO 9I C ^ o 2 1NE ~bb 2 ~59\nO 9I C ^ o 2 1NE ~bb 2 ~59\nO 9I C ^ o 1 2 ~59\nO 9I C ^ o 2 1NE ~bb 2 ~59\nO 9I C ^ o 1 2 ~59\nO 9I C ^ o 2 1NE ~bb 2 ~59\nO 9I C ^\nO 9I C ^ o 2 1NE ~bb 2 ~59\nO 9I C ^ o 2 1NE ~bb 2 ~59\nO 9I C ^ o 2 1NE ~bb 2 ~59\nT 5k P = zs 1 5l 2 3iN 5l C ^ a j 1LQ ~59 2 ~59 zo ~59 zp ~59 zq ~59 zr ~59 2wK ~5j 1L2 3iQ 2wL 3iR 2wM 3iS 2wN 3iT 2wO 3iU 2wP 3iV 2wQ 3iW 2wR 3iX 2wS 3iY 2wT 3iZ 1L3 3j0 1M0 3j1\nO 9I C ^ o 1 2 ~59\nO 9I C ^\nO 9I C ^ o 2 1NE ~bb 2 ~59\nO 9I C ^ o 3 1NE ~bb 2 ~59 1Nr ~9J\nO 9I C ^ o 1 2 ~59\nO 9I C ^ o 1 2 ~59\nO 9I C ^ o 1 2 ~59\nO 9I C ^ o 1 2 ~59\nO 9I C ^ o 1 2 ~59\nO 9I C ^ o 1 2 ~59\nO 9I C ^ o 1 2 ~59\nO 9I C ^ o 2 1NE ~bb 2 ~59\nO 6l D ^\nO 6l D ^\nO 9I C ^ o 2 1NE ~bb 2 ~59\nO 9I C ^ o 1 2 ~59\nO 9I C ^ o 1 2 ~59\nO 9I C ^\nO 9I C ^ o 1 2 ~59\nO 9I C ^\nO 9I C ^ o 1 2 ~59\nO 6l D ^\nO 6l D ^\nO 9I C ^ o 2 1NE ~bb 2 ~59\nO 9I C ^ o 1 2 ~59\nO 9I C ^ o 1 2 ~59\nO 9I C ^ o 1 2 ~59\nO 9I C q z6 za 2wU\nO 9I C ^ o 2 1NE ~bb 2 ~59\nO 9I C ^ o 1 2 ~59\nO 9I C ^ o 1 2 ~59\nO 9I C ^ o 2 1NE ~bb 2 ~59\nO 9I C ^ o 1 2 ~59\nO 9I C ^ o 1 2 ~59\nO 9I C ^ o 1 2 ~59\nO b0 F Aj a 4 1LQ ~59 1 ~59 1MO ~59 2 ~59\nO 6l D ^\nO 6l D ^\nO bz C t 1NP F 3jA\nO b0 F 3jz a 5 1LQ ~59 1 ~59 1MO ~59 2 ~7d RL ~9J\nO 9I C q tH 14 1Xn o 2 1NB ~bb 2 ~59\nO 9I C q tH 14 1KY o 2 1NB ~bb 2 ~59\nO 9I C q tH 14 1Xo o 2 1NB ~bb 2 ~59\nO 9I C q tH 14 1LP o 2 1NB ~bb 2 ~59\nO Jp\nO Jp\nO Jp\nO 9I C q tH 14 1Xm o 2 1NB ~bb 2 ~59\nO 9I C q 2wV 14 1KX o 1 2 ~59\nO kA a 2 11W ~59 NL ~59\nO 8N a 9 11W ~59 1M1 3jB 1M2 ~59 1M3 ~7d 1M4 ~7d 1M5 ~8O 1M6 ~8P 1M7 ~59 1M8 ~8P\nO 7c C ^ S f\nO 7c C ^ S f\nO 7c C ^ S f\nT 5k P 2wW 4R 0 5l 2 3jG 5l C ^ a 1n 1KX 3ke 1KY 3kf 1KZ 3kg 1L0 3kh 1L1 3ki 1L2 3kj cl 3kk sk 3kl 24y 3km sq 3kn 2wX 3ko 24z 3kp 24A 3kq UA 3kr 2wY 3ks 24B 3kt 24C 3ku 24D 3kv sw 3kw cd 3kx 24E 3ky 24F 3kz 28y 3kA 2wZ 3kB p6 3kC pn 3kD 24G 3kE po 3kF 24H 3kG 2x0 3kH 24I 3kI 24J 3kJ Xg 3kK 24K 3kL 1YH 3kM 2x1 3kN 24L 3kO 2x2 3kP 2x3 3kQ 22N 3kR 24M 3kS 24N 3kT 24O 3kU 24P 3kV 24U 3kW 24Q 3kX 24S 3kY 24R 3kZ 24V 3l0 24T 3l1 2x4 3l2 24X 3l3 24Y 3l4 2x5 3l5 24Z 3l6 250 3l7 251 3l8 252 3l9 2x6 3la 253 3lb 254 3lc 255 3ld 256 3le 258 3lf 259 3lg 25a 3lh 1YU 3li 257 3lj 25b 3lk 25c 3ll 2x7 3lm 2x8 3ln 1Rb 3lo 1MS 3lp wg 3lq 2x9 3lr 2xa 3ls 2xb 3lt 2xc 3lu 2xd 3lv 2xe 3lw 2xf 3lx 28e 3ly 2 ~59 1LQ ~59 o 1 1L4 ~59\nT 5k P = 66 1 bb 3 3jH bb 5l C ^ a f 2 ~59 1On ~bb 1Xk ~bb 1Xl ~9J 1KX 3k3 1Xm 3k4 1Xn 3k5 1KY 3k6 1Xo 3k7 1LP 3k8 1Xp ~bb 2xg 3k9 B0 3ka 2xh 3kb 1LQ ~59\nT 5k P = 67 1 3jW 5 3jI 3jW 8r 8s 5l C ^ a 3 1LQ ~59 1M0 3k2 2 ~7d o 1 2 ~7d\nT 5k P = 68 1 3jI 6 3jJ 3jI 3jW 8r 8s 5l C ^ a 2 1LQ ~59 2 ~7d o 1 2 ~7d\nT 5k P = 69 1 3jI 6 3jK 3jI 3jW 8r 8s 5l C ^ a 2 1LQ ~59 2 ~7d o 1 2 ~7d\nT 5k P = 6a 1 3jI 6 3jL 3jI 3jW 8r 8s 5l C ^ a 2 1LQ ~59 2 ~7d o 1 2 ~7d\nT 5k P = 6b 1 3jI 6 3jM 3jI 3jW 8r 8s 5l C ^ a 2 1LQ ~59 2 ~7d o 1 2 ~7d\nT 5k P = 6c 1 3jL 9 3jN 3jL 3jK 3jM 3jI 3jW 8r 8s 5l C ^ a 2 1LQ ~59 2 ~7d o 1 2 ~7d\nT 5k P = 6d 1 3jL 8 3jO 3jL 3jK 3jI 3jW 8r 8s 5l C ^ a 2 1LQ ~59 2 ~7d o 1 2 ~7d\nT 5k P = 6e 1 3jI 7 3jP 3jI 3jZ 3jW 8r 8s 5l C ^ a 2 1LQ ~59 2 ~7d o 1 2 ~7d\nT 5k P = 6f 1 3jI 7 3jQ 3jI 3jW 3ga 8r 8s 5l C ^ a 2 1LQ ~59 2 ~7d o 1 2 ~7d\nT 5k P = 6g 1 3jI 6 3jR 3jI 3jW 8r 8s 5l C ^ a 2 1LQ ~59 2 ~7d o 1 2 ~7d\nT 5k P = 6h 1 3jR 7 3jS 3jR 3jI 3jW 8r 8s 5l C ^ a 2 1LQ ~59 2 ~7d o 1 2 ~7d\nT 5k P = 6i 1 3jR 7 3jT 3jR 3jI 3jW 8r 8s 5l C ^ a 2 1LQ ~59 2 ~7d o 1 2 ~7d\nT 5k P = 6j 1 3jR 8 3jU 3jR 3jI 3jZ 3jW 8r 8s 5l C ^ a 2 1LQ ~59 2 ~7d o 1 2 ~7d\nT 5k P = 6k 1 3jR 7 3jV 3jR 3jI 3jW 8r 8s 5l C ^ a 2 1LQ ~59 2 ~7d o 1 2 ~7d\nT 5k P = qa 0 8r 4 3jW 8r 8s 5l C ^ a 3 1KX 3jX 1L2 3jY 2 ~59\nO 7c C b S 3jW o 1 1LQ ~7d\nO 6R C d D ^\nT 5k P = qv 0 3jW 5 3jZ 3jW 8r 8s 5l C ^ a 3 1KX 3k0 1L2 3k1 2 ~59\nO 7c C b S 3jZ o 1 1LQ ~7d\nO 6R C d D ^\nO 6l D ^\nO bz C t 1NP F 3kd\nO b0 F 3kc a 5 1LQ ~59 1 ~59 1MO ~59 2 ~7d RL ~9J\nO 9I C q tH 66 1Xn o 2 1NB ~bb 2 ~59\nO 9I C q tH 66 1KY o 2 1NB ~bb 2 ~59\nO 9I C q tH 66 1Xo o 2 1NB ~bb 2 ~59\nO 9I C q tH 66 1LP o 2 1NB ~bb 2 ~59\nO Jp\nO Jp\nO Jp\nO 9I C q tH 66 1Xm o 2 1NB ~bb 2 ~59\nO 9I C q 2xi 66 1KX o 1 2 ~59\nO 7c C b S 3jG o 1 1LQ ~7d\nO 6R C d D ^\nO 6R C d D ^\nO 6R C d D ^\nO 6R C d D ^\nO 6R C d D ^\nO 6G C d D ^ Y 7c\nO 6G C d D ^ Y 7c\nO 6G C d D ^ Y 7c\nO 6G C d D ^ Y 7c\nO 6G C d D ^ Y 7c\nO 6G C d D ^ Y 7c\nO 6G C d D ^ Y 7c\nO 6G C d D ^ Y 7c\nO 6G C d D ^ Y 7c\nO 6G C d D ^ Y 7c\nO 6G C d D ^ Y 7c\nO 6G C d D ^ Y 7c\nO 6G C d D ^ Y 7c\nO 6G C d D ^ Y 7c\nO 6G C d D ^ Y 7c\nO 6G C d D ^ Y 7c\nO 6G C d D ^ Y 7c\nO 6G C d D ^ Y 7c\nO 6G C d D ^ Y 7c\nO 6G C d D ^ Y 7c\nO 6G C d D ^ Y 7c\nO 6G C d D ^ Y 7c\nO 6G C d D ^ Y 7c\nO 6G C d D ^ Y 7c\nO 6G C d D ^ Y 7c\nO 6G C d D ^ Y 7c\nO 6G C d D ^ Y 7c\nO 6G C d D ^ Y 7c\nO 6G C d D ^ Y 7c\nO 6G C d D ^ Y 7c\nO 6G C d D ^ Y 7c\nO 6G C d D ^ Y 7c\nO 6G C d D ^ Y 7c\nO 6G C d D ^ Y 7c\nO 6G C d D ^ Y 7c\nO 6G C d D ^ Y 7c\nO 6G C d D ^ Y 7c\nO 6G C d D ^ Y 7c\nO 6G C d D ^ Y 7c\nO 6G C d D ^ Y 7c\nO 6G C d D ^ Y 7c\nO 6G C d D ^ Y 7c\nO 6G C d D ^ Y 7c\nO 6G C d D ^ Y 7c\nO 6G C d D ^ Y 7c o 2 2 ~7d 1L4 ~7d\nO 6G C d D ^ Y 7c\nO 6G C d D ^ Y 7c\nO 6G C d D ^ Y 7c\nO 6G C d D ^ Y 7c\nO 6G C d D ^ Y 7c\nO 6G C d D ^ Y 7c\nO 6G C d D ^ Y 7c\nO 6G C d D ^ Y 7c\nO 6G C d D ^ Y 7c\nO 6G C d D ^ Y 7c\nO 6G C d D ^ Y 7c\nO 6G C d D ^ Y 7c\nO 6G C d D ^ Y 7c\nO 6G C d D ^ Y 7c\nO 6G C d D ^ Y 7c\nO 6G C d D ^ Y 7c\nO 6G C d D ^ Y 7c\nO 6G C d D ^ Y 7c\nO 6G C d D ^ Y 7c\nO 6G C d D ^ Y 7c\nO 6G C d D ^ Y 7c\nO 6G C d D ^ Y 7c o 2 2 ~7d 1L4 ~7d\nO 6G C d D ^ Y 7c o 2 2 ~7d 1L4 ~7d\nO 6G C d D ^ Y 7c\nO 6G C d D ^ Y 7c\nO 6G C d D ^ Y 7c\nO 6l D ^ Z k ~5j o 1 2 ~7d\nO 6l D ^ Z k ~5j o 1 2 ~7d\nO 6l D ^ Z k ~5j o 1 2 ~7d\nO 6l D ^ Z k ~59 o 1 2 ~7d\nO 6l D ^ Z k ~5j o 1 2 ~7d\nO 6l D ^ Z k ~5j o 1 2 ~7d\nO kA a 2 11W ~59 NL ~59\nO 8N a 9 11W ~59 1M1 3lz 1M2 ~59 1M3 ~7d 1M4 ~7d 1M5 ~8O 1M6 ~8P 1M7 ~59 1M8 ~8P\nO kA a 2 11W ~59 NL ~59\nO 8N a 9 11W ~59 1M1 3lB 1M2 ~59 1M3 ~7d 1M4 ~7d 1M5 ~8O 1M6 ~8P 1M7 ~59 1M8 ~8P\nT 5k P = yb 1 3mQ 5 3lD 3mQ 8r 8s 5l C ^ a 3 1LQ ~59 1M0 3mR 2 ~7d o 1 2 ~7d\nT 5k P = yc 1 5l 2 3lE 5l C ^ a 5 1LQ ~59 1KY 3mN 1L3 3mO 1M0 3mP 2 ~7d o 1 2 ~7d\nT 5k P = ye 1 5l 2 3lF 5l C ^ a 4 1LQ ~59 1L3 3mL 1M0 3mM 2 ~7d o 1 2 ~7d\nT 5k P = yg 1 5l 2 3lG 5l C ^ a 4 1LQ ~59 1L3 3mJ 1M0 3mK 2 ~7d o 1 2 ~7d\nT 5k P = yj 1 5l 2 3lH 5l C ^ a 6 1LQ ~59 1L2 3mF 1KY 3mG 1L3 3mH 1M0 3mI 2 ~7d o 1 2 ~7d\nO 3lH a 1 11W ~59\nO 3lH a 1 11W ~59\nO 3lH a 1 11W ~59\nO 9I C ^\nT 5k P = yr 1 5l 2 3lM 5l C ^ a 7 1LQ ~59 1On ~bb 1L2 3mA 1KY 3mB 1Nq 3mC q1 3mD 2 ~7d o 1 2 ~7d\nT 5k P = ys 1 5l 2 3lN 5l C ^ a i 1LQ ~59 1On ~bb 1L2 3mk 1KY 3ml 1Nx 3mm 1Nq 3mn 2xj 3mo 24E 3mp 29X 3mq 1XO 3mr pd 3ms Xy 3mt 2xk 3mu Mo 3mv 11W 3mw pu 3mx q1 3my 2 ~7d o 1 2 ~7d\nO 9I C ^\nO 9I C ^\nO 9I C ^ o 1 1Nr ~9J\nO 9I C ^\nO 9I C ^\nO 9I C ^\nO 9I C ^\nO 9I C ^\nO 9I C ^\nO 9I C ^\nO 9I C ^\nO 9I C ^\nO 9I C ^\nO 9I C ^\nO 9I C ^\nO 9I C ^\nO 9I C ^\nO 9I C ^\nO 9I C ^\nO 9I C ^\nO 9I C ^\nO 9I C ^\nO 9I C ^\nO 9I C ^\nO 9I C ^\nO 9I C ^\nO 9I C ^ o 1 2 ~59\nO 9I C ^ o 2 2 ~59 1Nr ~9J\nO 9I C ^\nO 9I C ^ o 2 2 ~59 1Nr ~9J\nO 9I C ^\nO 9I C ^ o 2 2 ~59 1Nr ~9J\nO 9I C ^\nO 9I C ^ a 1 1NO 3mz o 1 1NB ~bb\nO 9I C ^\nO b0 F Aj a 4 1LQ ~59 1 ~59 1MO ~59 2 ~59\nO 6v D ^\nO 6v D ^\nO 6v D ^\nO 6v D ^\nO 6v D ^\nO 6v D ^\nO 6v D ^\nO 6v D ^\nO 6v D ^\nO 6v D ^\nO 6v D ^\nO 9I C q y9 ys 1KY\nO 9I C ^\nO 9I C ^\nO b0 F 3mE\nO 6v D ^\nO 9I C q y9 yr 1Nq\nO 9I C ^\nO 9I C ^\nO 6l D ^ I k ~9J\nO 6l D ^ I k ~7d\nO 6l D ^ Z k ~9J\nO 6l D ^ Z k ~7d\nO 6l D ^ Z k ~9J\nO 6l D ^ Z k ~7d\nO 9I C ^\nO 6l D ^ Z k ~9J\nO 6l D ^ Z k ~7d\nT 5k P = qc 0 8r 4 3mQ 8r 8s 5l C ^ a 5 1L6 3mS 1L2 3mT 11W 3mU 2eH 3mV 2 ~59\nO 6l D ^\nO 6R C d D ^\nO 6R C d D ^\nO 6v D ^ o 1 2 ~59\nO 6v D ^ o 1 2 ~59\nO kA a 2 11W ~59 NL ~59\nO 8N a 9 11W ~59 1M1 3mW 1M2 ~59 1M3 ~7d 1M4 ~7d 1M5 ~8O 1M6 ~8P 1M7 ~59 1M8 ~8P\nT 3nZ P 2xl 5x 0 3nR 3 3mY 3nR 5l C ^ a 3 1KX 3qD 1L2 3qE 2 ~59\nT 3oa P 2xm 5w 0 3nR 3 3mZ 3nR 5l C ^ a 3 1KX 3qB 1L2 3qC 2 ~59\nT 3nK P 2xn 5z 0 3nR 3 3n0 3nR 5l C ^ a 8 1KX 3qu 1L2 3qv 1L9 3qw 11d 3qx 11e 3qy 11c 3qz 1Nq 3qA 2 ~59\nT 5k P = 5P 1 8r 4 3n1 8r 8s 5l C o 1j a 3 1LQ ~59 1M0 3qt 2 ~7d o 1 2 ~7d\nO 9I C ^ o 2 1NE ~bb 2 ~59\nO 9I C ^ o 1 2 ~59\nO 7c C ^ S d o 1 1L4 ~7d\nO 7c C ^ S d o 1 1L4 ~7d\nO 7c C ^ S d o 1 1L4 ~7d\nO 7c C ^ S d o 1 1L4 ~7d\nO 7c C ^ S d o 1 1L4 ~7d\nO 7c C ^ S d o 2 2 ~7d 1L4 ~7d\nO 7c C ^ S d o 2 2 ~7d 1L4 ~7d\nT 3p9 P = x9 1 3pa 4 3nb 3pa 3nR 5l C ^ a 6 1LQ ~59 2xo ~59 1KY 3qq 1L3 3qr 1M0 3qs 2 ~7d\nT 3p9 P = xa 1 3pa 4 3nc 3pa 3nR 5l C ^ a 7 1LQ ~59 2xo ~59 1L3 3ql 1M0 3qm 2 ~7d 2xp 3qn 2xq 3nc\nT 3p9 P = xb 1 3pa 4 3nd 3pa 3nR 5l C ^ a 7 1LQ ~59 2xo ~59 1L3 3qg 1M0 3qh 2 ~7d 2xp 3qi 2xq 3nd\nT 3p9 P = xc 1 3pa 4 3ne 3pa 3nR 5l C ^ a 7 1LQ ~59 2xo ~59 1L3 3qb 1M0 3qc 2 ~7d 2xp 3qd 2xq 3ne\nT 3p9 P = xd 1 3pa 4 3nf 3pa 3nR 5l C ^ a 7 1LQ ~59 2xo ~59 1L3 3q6 1M0 3q7 2 ~7d 2xp 3q8 2xq 3nf\nT 3p9 P = xe 1 3pa 4 3ng 3pa 3nR 5l C ^ a 7 1LQ ~59 2xo ~59 1L3 3q1 1M0 3q2 2 ~7d 2xp 3q3 2xq 3ng\nT 3p9 P = xf 1 3pa 4 3nh 3pa 3nR 5l C ^ a 7 1LQ ~59 2xo ~59 1L3 3pW 1M0 3pX 2 ~7d 2xp 3pY 2xq 3nh\nT 3p9 P = xg 1 3pa 4 3ni 3pa 3nR 5l C ^ a 7 1LQ ~59 2xo ~59 1L3 3pR 1M0 3pS 2 ~7d 2xp 3pT 2xq 3ni\nT 3p9 P = xh 1 3pa 4 3nj 3pa 3nR 5l C ^ a 7 1LQ ~59 2xo ~59 1L3 3pM 1M0 3pN 2 ~7d 2xp 3pO 2xq 3nj\nT 3p9 P = xi 1 3pa 4 3nk 3pa 3nR 5l C ^ a 5 1LQ ~59 2xo ~59 1L3 3pK 1M0 3pL 2 ~7d\nT 3p9 P = xl 1 3pa 4 3nl 3pa 3nR 5l C ^ a 7 1LQ ~59 2xo ~59 1L3 3pI 1M0 3pJ 2 ~7d 2xq 3nl 2xp 3nl\nT 3p9 P = xm 1 3pa 4 3nm 3pa 3nR 5l C ^ a 7 1LQ ~59 2xo ~59 1L3 3pG 1M0 3pH 2 ~7d 2xq 3nm 2xp 3nm\nT 3p9 P = xn 1 3pa 4 3nn 3pa 3nR 5l C ^ a 7 1LQ ~59 2xo ~59 1L3 3pE 1M0 3pF 2 ~7d 2xq 3nn 2xp 3nn\nT 3p9 P = xo 1 3pa 4 3no 3pa 3nR 5l C ^ a 7 1LQ ~59 2xo ~59 1KY 3pA 1L3 3pB 1M0 3pC 2 ~7d 2xr 3pD\nT 3p9 P = xp 1 3pa 4 3np 3pa 3nR 5l C ^ a 6 1LQ ~59 2xo ~59 1L3 3px 1M0 3py 2 ~7d 2xr 3pz\nT 3p9 P = xr 1 3pa 4 3nq 3pa 3nR 5l C ^ a 5 1LQ ~59 2xo ~59 1L3 3pv 1M0 3pw 2 ~7d\nO 7c C ^ S d o 2 2 ~7d 1L4 ~7d\nO 7c C ^ S d o 2 2 ~7d 1L4 ~7d\nT 3p9 P = xs 1 3pa 4 3nt 3pa 3nR 5l C ^ a 7 1LQ ~59 2xo ~59 1KY 3pr 1L3 3ps 1M0 3pt 2 ~7d 2xr 3pu\nT 3p9 P = xt 1 3pa 4 3nu 3pa 3nR 5l C ^ a 5 1LQ ~59 2xo ~59 1L3 3pb 1M0 3pc 2 ~7d\nO 9I C ^ o 2 1NE ~bb 2 ~59\nO 9I C ^\nO 9I C ^\nT 5k P = xy 1 5l 2 3ny 5l C ^ a d 1LQ ~59 2 ~59 2xs ~5j 2xt 3ng 1TQ ~59 2kP ~5j 2xu ~7d 1L2 3p3 1KY 3p4 us 3p5 11d 3p6 1L3 3p7 1M0 3p8\nT 5k P = xz 1 3ny 3 3nz 3ny 5l C ^ a 3 1LQ ~59 2 ~59 2xs ~5j\nT 5k P = xA 1 5l 2 3nA 5l C ^ a 9 1LQ ~59 1L2 3oW us 3oX 11d 3oY 2xv 3oZ 1Nq 3p0 1L3 3p1 1M0 3p2 2 ~7d o 1 2 ~7d\nO 3nA U $ qj 2 2xw 2xx a 1 2xy 3ny\nO 3nA U $ qj 2 2xw 2xx a 1 2xy 3nz\nO 3nz U $ qc 2 2xz 2xw a 3 1TQ ~7d 2xu 3oT 2kP ~5j\nO 3oQ C t 2xA o 1 2xB 3np\nO 3ow C t 2xA o 1 2xB 3np\nO 9I C ^\nO 9I C ^\nO 9I C ^ o 2 1NE ~bb 2 ~59\nO 9I C ^ o 2 1NE ~bb 2 ~59\nT 5k P 2xC 2xD 0 5k 3 3nK 5k 5l C q 5c - 2xD a 9 1KX 3oo 110 3op 1La 3oq 2xr 3or 2xE 3os 2xF 3ot 2xG 3ou 2xH 3ov 2 ~59\nO 9I C ^ o 1 2 ~59\nT 5k P = y5 1 5l 2 3nM 5l C ^ a 5 1LQ ~59 1L0 3ol 1L3 3om 1M0 3on 2 ~7d o 1 2 ~7d\nT 5k P = y6 1 3oa 5 3nN 3nM 3oa 5k 5l C ^ a 2 1LQ ~59 2 ~7d o 1 2 ~7d\nT 5k P = y7 1 3nZ 5 3nO 3nM 3nZ 5k 5l C ^ a 2 1LQ ~59 2 ~7d o 1 2 ~7d\nT 3nN P = xQ 1 3mZ 4 3nP 3mZ 3nR 5l C o 1k a 4 1LQ ~59 2 ~59 1On ~bb 2xI ~7d o 1 1M0 ~z7\nT 3nO P = xS 1 3mY 4 3nQ 3mY 3nR 5l C o 1k a 4 1LQ ~59 2 ~59 1On ~bb 2xI ~7d o 1 1M0 ~z7\nT 5k P 2xJ 2xK 0 5l 2 3nR 5l C q 5c - 2xK a 8 1L5 3nS 2xL 3nT 1MS 3nU 1N8 3nV 2xM 3nW 2xN 3nX 2xO 3nY 2 ~59\nO 6R C d D ^\nO 6G C d D ^ Y 7c o 2 2 ~7d 1L4 ~7d\nO 6G C d D ^ Y 7c o 2 2 ~7d 1L4 ~7d\nO 6G C d D ^ Y 7c o 2 2 ~7d 1L4 ~7d\nO 6v D ^ I k ~7d o 1 2 ~59\nO 6v D ^ I k ~5j o 1 2 ~59\nO 6v D ^ I k ~7d o 1 2 ~59\nT 5k P 2xP 1Av 0 5k 3 3nZ 5k 5l C q 5c - 1Av a b 1KX 3o0 1L0 3o1 1L1 3o2 110 3o3 1La 3o4 2xr 3o5 2xE 3o6 2xF 3o7 2xG 3o8 2xH 3o9 2 ~59\nO 7c C b S 3nZ o 1 1LQ ~7d\nO 6R C d D ^\nO 6R C d D ^\nO 6R C d D ^\nO 6R C d D ^\nO 6G C d D ^ Y 7c o 1 1L4 ~7d\nO 6G C d D ^ Y 7c o 1 1L4 ~7d\nO 6G C d D ^ Y 7c o 1 1L4 ~7d\nO 6G C d D ^ Y 7c o 1 1L4 ~7d\nO 6G C d D ^ Y 7c o 1 1L4 ~7d\nT 5k P 2xQ 2xR 0 5k 3 3oa 5k 5l C q 5c - 2xR a b 1KX 3ob 1L0 3oc 1L1 3od 110 3oe 1La 3of 2xr 3og 2xE 3oh 2xF 3oi 2xG 3oj 2xH 3ok 2 ~59\nO 7c C b S 3oa o 1 1LQ ~7d\nO 6R C d D ^\nO 6R C d D ^\nO 6R C d D ^\nO 6R C d D ^\nO 6G C d D ^ Y 7c o 1 1L4 ~7d\nO 6G C d D ^ Y 7c o 1 1L4 ~7d\nO 6G C d D ^ Y 7c o 1 1L4 ~7d\nO 6G C d D ^ Y 7c o 1 1L4 ~7d\nO 6G C d D ^ Y 7c o 1 1L4 ~7d\nO 9I C ^ o 1 1NB ~bb\nO 6l D ^ I k ~WI\nO 6l D ^ I i\nO 7c C b S 3nK o 1 1LQ ~7d\nO 6R C d D ^\nO 6R C d D ^\nO 6G C d D ^ Y 7c o 1 1L4 ~7d\nO 6G C d D ^ Y 7c o 1 1L4 ~7d\nO 6G C d D ^ Y 7c o 1 1L4 ~7d\nO 6G C d D ^ Y 7c o 1 1L4 ~7d\nO 6G C d D ^ Y 7c o 1 1L4 ~7d\nT 3ox P 2xS 2xT 1 3oy 4 3ow 3oy 3nR 5l C q wT 2xU 2xS a 7 1LQ ~59 2xV ~bb 2xW 3np 2xX ~5j 1L3 3oz 1M0 3oA 2 ~7d\nT 5k P 2xY 2xZ 0 5k 3 3ox 5k 5l C q 5c - 2xZ a 9 1KX 3oI 110 3oJ 1La 3oK 2xr 3oL 2xE 3oM 2xF 3oN 2xG 3oO 2xH 3oP 2 ~59\nT 3ox P 2y0 5B 0 3nR 3 3oy 3nR 5l C ^ a 8 1KX 3oB 1KY 3oC 10T 3oD 1Mf 3oE 2y1 3oF 2xB 3oG 2y2 3oH 2 ~59\nO 6l D ^ I k ~9J\nO 6l D ^ I k ~7d\nO 7c C b S 3oy o 1 1LQ ~7d\nO 6R C d D ^\nO 6R C d D ^\nO 6R C d D ^\nO 6l D ^ I k ~7d\nO 6l D ^ I k 3nb\nO 6l D ^ I k ~bb\nO 7c C b S 3ox o 1 1LQ ~7d\nO 6R C d D ^\nO 6R C d D ^\nO 6G C d D ^ Y 7c o 1 1L4 ~7d\nO 6G C d D ^ Y 7c o 1 1L4 ~7d\nO 6G C d D ^ Y 7c o 1 1L4 ~7d\nO 6G C d D ^ Y 7c o 1 1L4 ~7d\nO 6G C d D ^ Y 7c o 1 1L4 ~7d\nT 3ox P 2xS 2xT 1 3oy 4 3oQ 3oy 3nR 5l C q wT 2xU 2xS a 7 1LQ ~59 2xV ~bb 2xW 3np 2xX ~5j 1L3 3oR 1M0 3oS 2 ~7d\nO 6l D ^ I k ~9J\nO 6l D ^ I k ~7d\nT 3ox P 2xu 2y3 1 3oy 4 3oT 3oy 3nR 5l C q wT 2y4 2xu a 6 1LQ ~59 2xX ~5j 2xW 3ng 1L3 3oU 1M0 3oV 2 ~7d\nO 6l D ^\nO 6l D ^\nO 9I C ^\nO 9I C ^\nO 9I C ^\nO 9I C ^\nO b0 F Aj a 4 1LQ ~59 1 ~59 1MO ~59 2 ~59\nO 6l D ^ I k ~9J\nO 6l D ^ I k ~7d\nO 9I C ^ o 1 1NE ~bb\nO 9I C ^\nO 9I C ^\nO 9I C ^\nO 6l D ^ I k ~9J\nO 6l D ^ I k ~7d\nT 5k P 2y5 2y6 0 5k 3 3p9 5k 5l C q 5c - 2y6 a 9 1KX 3pj 110 3pk 1La 3pl 2xr 3pm 2xE 3pn 2xF 3po 2xG 3pp 2xH 3pq 2 ~59\nT 3p9 P 2y7 5A 0 3nR 3 3pa 3nR 5l C ^ a 7 1KX 3pd 1KY 3pe 1L2 3pf 1Mf 3pg 2xL 3ph 1TK 3pi 2 ~59\nO 6l D ^\nO 6l D ^\nO 7c C b S 3pa o 1 1LQ ~7d\nO 6R C d D ^\nO 6R C d D ^\nO 6R C d D ^\nO 6G C d D ^ o 2 2 ~7d 1L4 ~7d\nO 6l D ^\nO 7c C b S 3p9 o 1 1LQ ~7d\nO 6R C d D ^\nO 6R C d D ^\nO 6G C d D ^ Y 7c o 1 1L4 ~7d\nO 6G C d D ^ Y 7c o 1 1L4 ~7d\nO 6G C d D ^ Y 7c o 1 1L4 ~7d\nO 6G C d D ^ Y 7c o 1 1L4 ~7d\nO 6G C d D ^ Y 7c o 1 1L4 ~7d\nO 9I C ^\nO 6l D ^\nO 6l D ^\nO 72 C d D ^ Y 7c o 1 2 ~7d\nO 6l D ^\nO 6l D ^\nO 6l D ^\nO 6l D ^\nO 72 C d D ^ Y 7c o 1 2 ~7d\nO 9I C ^\nO 6l D ^\nO 6l D ^\nO 72 C d D ^ Y 7c o 1 2 ~7d\nO 6l D ^\nO 6l D ^\nO 6l D ^\nO 6l D ^\nO 6l D ^\nO 6l D ^\nO 6l D ^\nO 6l D ^\nO 6l D ^\nO 6l D ^\nT 3p9 P 2y8 xh 1 3pa 4 3pO 3pa 3nR 5l C q wT - xh a 7 1LQ ~59 2xo ~59 1L3 3pP 1M0 3pQ 2 ~7d 2xq 3nj 2xp 3pO\nO 6l D ^\nO 6l D ^\nO 6l D ^\nO 6l D ^\nT 3p9 P 2y9 xg 1 3pa 4 3pT 3pa 3nR 5l C q wT - xg a 7 1LQ ~59 2xo ~59 1L3 3pU 1M0 3pV 2 ~7d 2xq 3ni 2xp 3pT\nO 6l D ^\nO 6l D ^\nO 6l D ^\nO 6l D ^\nT 3p9 P 2ya xf 1 3pa 4 3pY 3pa 3nR 5l C q wT - xf a 7 1LQ ~59 2xo ~59 1L3 3pZ 1M0 3q0 2 ~7d 2xq 3nh 2xp 3pY\nO 6l D ^\nO 6l D ^\nO 6l D ^\nO 6l D ^\nT 3p9 P 2yb xe 1 3pa 4 3q3 3pa 3nR 5l C q wT - xe a 7 1LQ ~59 2xo ~59 1L3 3q4 1M0 3q5 2 ~7d 2xq 3ng 2xp 3q3\nO 6l D ^\nO 6l D ^\nO 6l D ^\nO 6l D ^\nT 3p9 P 2yc xd 1 3pa 4 3q8 3pa 3nR 5l C q wT - xd a 7 1LQ ~59 2xo ~59 1L3 3q9 1M0 3qa 2 ~7d 2xq 3nf 2xp 3q8\nO 6l D ^\nO 6l D ^\nO 6l D ^\nO 6l D ^\nT 3p9 P 2yd xc 1 3pa 4 3qd 3pa 3nR 5l C q wT - xc a 7 1LQ ~59 2xo ~59 1L3 3qe 1M0 3qf 2 ~7d 2xq 3ne 2xp 3qd\nO 6l D ^\nO 6l D ^\nO 6l D ^\nO 6l D ^\nT 3p9 P 2ye xb 1 3pa 4 3qi 3pa 3nR 5l C q wT - xb a 7 1LQ ~59 2xo ~59 1L3 3qj 1M0 3qk 2 ~7d 2xq 3nd 2xp 3qi\nO 6l D ^\nO 6l D ^\nO 6l D ^\nO 6l D ^\nT 3p9 P 2yf xa 1 3pa 4 3qn 3pa 3nR 5l C q wT - xa a 7 1LQ ~59 2xo ~59 1L3 3qo 1M0 3qp 2 ~7d 2xq 3nc 2xp 3qn\nO 6l D ^\nO 6l D ^\nO 9I C ^ o 1 1NB ~bb\nO 6l D ^\nO 6l D ^\nO 6l D ^\nO 7c C b S 3n0 o 1 1LQ ~7d\nO 6R C d D ^\nO 6R C d D ^\nO 6R C d D ^\nO 6R C d D ^\nO 6R C d D ^\nO 72 C d D ^ Y 7c\nO 7c C b S 3mZ o 1 1LQ ~7d\nO 6R C d D ^\nO 7c C b S 3mY o 1 1LQ ~7d\nO 6R C d D ^\nO kA a 2 11W ~59 NL ~59\nO 8N a 9 11W ~59 1M1 3qF 1M2 ~59 1M3 ~7d 1M4 ~8O 1M5 ~8O 1M6 ~8P 1M7 ~59 1M8 ~8P\nT 3qX P 2yg 5y 0 3nR 3 3qH 3nR 5l C ^ a 8 1KX 3qY 1L2 3qZ 1Mf 3r0 11d 3r1 11e 3r2 11c 3r3 NF 3r4 2 ~59\nO 7c C ^ S d o 1 1L4 ~7d\nO 9I C ^ o 1 1NE ~bb\nO 9I C ^\nO 3qU C t 2xA\nO 3qR C t 2xA\nO 3qO C t 2xA\nT 3ox P 2xS 2yh 1 3oy 4 3qO 3oy 3nR 5l C q wT 2yi 2xS a 7 1LQ ~59 2xV ~bb 2xW 3nb 2xX ~5j 1L3 3qP 1M0 3qQ 2 ~7d\nO 6l D ^ I k ~9J\nO 6l D ^ I k ~7d\nT 3ox P 2xS 2yh 1 3oy 4 3qR 3oy 3nR 5l C q wT 2yi 2xS a 7 1LQ ~59 2xV ~bb 2xW 3nb 2xX ~5j 1L3 3qS 1M0 3qT 2 ~7d\nO 6l D ^ I k ~9J\nO 6l D ^ I k ~7d\nT 3ox P 2xS 2yh 1 3oy 4 3qU 3oy 3nR 5l C q wT 2yi 2xS a 7 1LQ ~59 2xV ~bb 2xW 3nb 2xX ~5j 1L3 3qV 1M0 3qW 2 ~7d\nO 6l D ^ I k ~9J\nO 6l D ^ I k ~7d\nT 5k P 2yj 2yk 0 5k 3 3qX 5k 5l C q 5c - 2yk a a 1KX 3r5 110 3r6 1La 3r7 2xE 3r8 2xF 3r9 2xG 3ra 2xH 3rb 2xr 3rc 2rE 3rd 2 ~59\nO 7c C b S 3qH o 1 1LQ ~7d\nO 6R C d D ^\nO 6R C d D ^\nO 6R C d D ^\nO 6R C d D ^\nO 6R C d D ^\nO 6l D ^\nO 7c C b S 3qX o 1 1LQ ~7d\nO 6R C d D ^\nO 6R C d D ^\nO 6G C d D ^ Y 7c o 1 1L4 ~7d\nO 6G C d D ^ Y 7c o 1 1L4 ~7d\nO 6G C d D ^ Y 7c o 1 1L4 ~7d\nO 6G C d D ^ Y 7c o 1 1L4 ~7d\nO 6G C d D ^ Y 7c o 1 1L4 ~7d\nO 6G C d D ^ Y 7c o 2 2 ~7d 1L4 ~7d\nO kA a 2 11W ~59 NL ~59\nO 8N a 9 11W ~59 1M1 3re 1M2 ~59 1M3 ~7d 1M4 ~7d 1M5 ~8O 1M6 ~8P 1M7 ~59 1M8 ~8P\nT 5k P 2yl 5b 1 8r 4 3rg 8r 8s 5l C ^ a 2 2 ~7d 1LQ ~59 o 1 2 ~7d\nO 7c C ^ S c o 1 1L4 ~7d\nO 7c C ^ S c o 1 1L4 ~7d\nO 7c C ^ S c o 1 1L4 ~7d\nO 7c C ^ S c\nO 7c C ^ S c\nO 7c C ^ S c\nO 7c C ^ S c\nT 5k P 2ym 52 1 5l 2 3ro 5l C ^ a d 1KX 3rW 1MS 3rX 1MR 3rY 2yn 3rZ 2yo 3s0 2nc 3s1 23U 3s2 2yp 3s3 2yq 3s4 2yr 3s5 2ys 3s6 2 ~59 1LQ ~59\nT 5k P = 52 1 5l 2 3rp 5l C ^ a f 1LQ ~59 2 ~59 1TQ ~59 2yt ~8P 23U ~7d 2yr ~7d 2yp ~7d 2yo ~7d 2yn ~7d 2yq ~7d 2ys ~7d 1L2 3rS 2yu 3rT 1L3 3rU 1M0 3rV\nT 5k P = wN 1 3rp 3 3rq 3rp 5l C ^ a 8 1LQ ~59 2 ~59 23U ~59 2yr ~59 2yo ~8P 2yn ~8P 2yq ~59 2ys ~5j\nT 5k P = wO 1 3rq 4 3rr 3rq 3rp 5l C ^ a 3 1LQ ~59 2 ~59 23U ~59\nT 5k P = wP 1 3rp 3 3rs 3rp 5l C ^ a 8 1LQ ~59 2 ~59 23U ~59 2yr ~59 2yo ~8P 2yn ~8P 2yq ~59 2ys ~5j\nT 5k P = wQ 1 5l 2 3rt 5l C ^ a 8 1LQ ~59 1L2 3rK 1L7 3rL 2yv 3rM 1PP 3rN 1L3 3rO 1M0 3rP 2 ~7d o 1 2 ~7d\nT 5k P = wR 1 5l 2 3ru 5l C ^ a 9 1LQ ~59 1L2 3rD 2yw 3rE 2yx 3rF 2yy 3rG 2yz 3rH 1L3 3rI 1M0 3rJ 2 ~7d o 1 2 ~7d\nT 5k P = wS 1 5l 2 3rv 5l C ^ a 9 1LQ ~59 2 ~59 1L2 3rw 2yA 3rx 2yB 3ry 2yC 3rz 2yD 3rA 1L3 3rB 1M0 3rC\nO 9I C ^\nO 9I C ^ o 2 1NE ~bb 2 ~59\nO 9I C ^ o 1 2 ~59\nO 9I C ^ o 1 2 ~59\nO 9I C ^\nO 6l D ^\nO 6l D ^\nO 9I C ^ o 1 1NE ~bb\nO 9I C ^\nO 9I C ^\nO 9I C ^\nO 9I C ^\nO 6l D ^\nO 6l D ^\nO 9I C ^ o 1 1NE ~bb\nO 9I C ^\nO 9F o 3 2 ~7d 1Ns 3rQ 1Nt 3rR\nO 9I C ^\nO 6l D ^\nO 6l D ^\nO 9I C q wL wQ 2yv\nO 9I C q wL wQ 2yv\nO 9I C ^\nO 9I C ^\nO 6l D ^\nO 6l D ^\nO 7c C b S 3ro o 1 1LQ ~7d\nO 6G C d D ^ o 1 1L4 ~7d\nO 6G C d D ^ o 1 1L4 ~7d\nO 6v D ^\nO 6v D ^\nO 6v D ^\nO 6l D ^ o 1 2 ~7d\nO 6l D ^ o 1 2 ~7d\nO 6l D ^ o 1 2 ~7d\nO 6l D ^ o 1 2 ~7d\nO 6l D ^ o 1 2 ~7d\nO kA a 2 11W ~59 NL ~59\nO 8N a 9 11W ~59 1M1 3s7 1M2 ~59 1M3 ~7d 1M4 ~7d 1M5 ~8O 1M6 ~8P 1M7 ~59 1M8 ~8P\nO 9I C ^ o 1 1NE ~bb\nO 9I C ^\nO 9I C ^\nO 9I C ^\nO 9I C ^\nO 9I C ^\nO 9I C ^\nO 9I C ^ o 1 2 ~59\nO 9I C ^ o 1 2 ~59\nO 9I C ^ o 1 2 ~59\nO 9I C ^ o 1 2 ~59\nO 9I C ^\nO kA a 2 11W ~59 NL ~59\nO 8N a 9 11W ~59 1M1 3sl 1M2 ~59 1M3 ~7d 1M4 ~7d 1M5 ~8O 1M6 ~8P 1M7 ~59 1M8 ~8P\nT 5k P = 5b 1 8r 4 3sn 8r 8s 5l C ^ a 3 1LQ ~59 1M0 3sy 2 ~7d o 1 2 ~7d\nO 9I C ^ o 1 2 ~59\nO 9I C ^\nO 9I C ^ o 2 1NE ~bb 2 ~59\nO 9I C ^\nO 9I C ^ o 1 1NE ~bb\nO 9I C ^ o 1 1NE ~bb\nO 9I C ^ o 1 1NE ~bb\nO 9I C ^\nO 9I C ^ o 1 2 ~59\nO 9I C ^ o 2 1NE ~bb 1Nr ~9J\nO 6l D ^\nO kA a 2 11W ~59 NL ~59\nO 8N a 9 11W ~59 1M1 3sz 1M2 ~59 1M3 ~7d 1M4 ~7d 1M5 ~8O 1M6 ~8P 1M7 ~59 1M8 ~8P\nT 5k P 2yE 4R 0 5l 2 3sB 5l C ^ a k 1KX 3sX 1L5 ~7d 1KZ 3sY 10J 3sZ 10K 3t0 10L 3t1 10M 3t2 10O 3t3 10N 3t4 1L7 3t5 1L9 3t6 11d 3t7 11b 3t8 1NF 3t9 1NJ 3ta 1NI 3tb 1NK 3tc wg 3td 1pJ 3te 2 ~7d o 1 2 ~7d\nT 5k P 2yF 4S 0 5l 2 3sC 5l C ^ a a 1KX 3sO 1KY 3sP 1L5 3sQ 1KZ 3sR 1NF 3sS pW 3sT 1Qq 3sU 1Nq 3sV 11W 3sW 2 ~7d o 1 2 ~7d\nT 5k P 2yG 4T 0 5l 2 3sD 5l C ^ a 9 1KX 3sF 1KY 3sG 1L5 ~7d 1KZ 3sH 1Nq 3sI 2yH 3sJ 2yI 3sK 2 ~7d yf ~3sL o 1 2 ~7d\nO 7c C ^ S b o 1 2 ~7d\nO 7c C b S 3sD o 1 1LQ ~7d\nO 6R C d D ^\nO 6R C d D ^\nO 72 C d D ^ Y 7c\nO 6l D ^ o 1 2 ~7d\nO 6l D ^ o 1 2 ~7d\nT 5k P 2yJ yf 0 5l 2 3sL 5l C q 4T - yf a 3 1KY 3sM 1KZ 3sN 2 ~7d o 1 2 ~7d\nO 6R C d D ^\nO 6R C d D ^\nO 7c C b S 3sC o 1 1LQ ~7d\nO 6R C d D ^\nO 6R C d D ^\nO 6R C d D ^\nO 6G C d D ^\nO 6G C d D ^\nO 6G C d D ^\nO 72 C d D ^ Y 7c\nO 6v D ^\nO 7c C b S 3sB o 1 1LQ ~7d\nO 6R C d D ^\nO 6R C d D ^\nO 6R C d D ^\nO 6R C d D ^\nO 6R C d D ^\nO 6R C d D ^\nO 6R C d D ^\nO 6R C d D ^\nO 6R C d D ^\nO 6R C d D ^\nO 6R C d D ^\nO 6G C d D ^\nO 6G C d D ^\nO 6G C d D ^\nO 6G C d D ^\nO 6G C d D ^\nO 6G C d D ^ o 2 2 ~7d 1L4 ~7d\nO kA a 2 11W ~59 NL ~59\nO 8N a 9 11W ~59 1M1 3tf 1M2 ~59 1M3 ~7d 1M4 ~7d 1M5 ~8O 1M6 ~8P 1M7 ~59 1M8 ~8P\nT 5k P = vZ 1 5l 2 3th 5l C ^ a 6 1LQ ~59 2 ~59 2yK 3ur 10T 3us 1L3 3ut 1M0 3uu\nT 5k P = w0 1 5l 2 3ti 5l C ^ a 6 1LQ ~59 2 ~59 2yK 3un 10T 3uo 1L3 3up 1M0 3uq\nT 5k P = w1 1 5l 2 3tj 5l C ^ a 6 1LQ ~59 2 ~59 1L2 3uj 2yK 3uk 1L3 3ul 1M0 3um\nT hS P = w2 1 3tj 6 3tk 3tj R2 QU 3th 5l C ^ a 6 1LQ ~59 2 ~59 1P8 3uh 1P9 3ui 1MQ ~i2 1P3 ~i3\nT hS P = w3 1 3tj 6 3tl 3tj QT QU 3ti 5l C ^ a 6 1LQ ~59 2 ~59 1YL 3uf 1YM 3ug 1MQ ~i2 1P3 ~i3\nO 9I C ^ o 1 2 ~59\nT hS P = w5 1 R2 4 3tn R2 QU 5l C ^ a 7 1LQ ~59 2 ~59 1L2 3uc 1P8 3ud 1P9 3ue 1MQ ~i2 1P3 ~i3\nT hS P = w6 1 QT 4 3to QT QU 5l C ^ a 7 1LQ ~59 2 ~59 1L2 3u9 1YL 3ua 1YM 3ub 1MQ ~i2 1P3 ~i3\nT hS P = w7 1 R2 4 3tp R2 QU 5l C ^ a 8 1LQ ~59 2yL ~7d 1L2 3u6 1P8 3u7 1P9 3u8 2 ~7d 1MQ ~i2 1P3 ~i3\nT hS P = w8 1 3tp 5 3tq 3tp R2 QU 5l C ^ a 5 1LQ ~59 2 ~59 2yL ~59 1MQ ~i2 1P3 ~i3\nT hS P = w9 1 3tp 5 3tr 3tp R2 QU 5l C ^ a 5 1LQ ~59 2 ~59 2yL ~59 1MQ ~i2 1P3 ~i3\nT 5k P = wb 1 5l 2 3ts 5l C ^ a d 1LQ ~59 2 ~59 2yM 3tT 2yN 3tU 1L2 3tV 25T 3tW 2a4 3tX 2yO 3tY 2yP 3tZ 2yQ 3u0 2yR 3u1 1L3 3u2 1M0 3u3\nT hS P = wc 1 3ts 5 3tt 3ts R2 QU 5l C ^ a 7 1LQ ~59 2 ~59 1P8 3tQ 1P9 3tR eD 3tS 1MQ ~i2 1P3 ~i3\nT hS P = wd 1 3ts 5 3tu 3ts QT QU 5l C ^ a d 1LQ ~59 2 ~59 2yS 3tF 2yT 3tG 2yU 3tH 2yV 3tI 2yW 3tJ 1Yy 3tK 2yX 3tL 1YL 3tM 1YM 3tN 1MQ ~i2 1P3 ~i3\nT hS P = mP 1 R2 5 3tv R2 QT QU 5l C o 1e a 9 1LQ ~59 2 ~59 1L2 3tA 1P8 3tB 1P9 3tC 1YL 3tD 1YM 3tE 1MQ ~i2 1P3 ~i3\nT hS P = we 1 R2 4 3tw R2 QU 5l C ^ a 7 1LQ ~59 2 ~59 1L2 3tx 1P8 3ty 1P9 3tz 1MQ ~i2 1P3 ~i3\nO 9I C ^\nO 9I C ^\nO 9I C ^\nO 9I C ^ o 1 1NE ~bb\nO 9I C ^\nO 9I C ^\nO 9I C ^\nO 9I C ^\nO bz C ^ F 3tP a 5 1LQ ~59 1 ~59 1MO ~59 2 ~7d RL ~9J\nO bz C ^ F 3tO a 5 1LQ ~59 1 ~59 1MO ~59 2 ~7d RL ~9J\nO 9I C ^ o 1 2 ~59\nO 9I C ^ o 1 2 ~59\nO 9I C ^ o 1 2 ~59\nO 9I C ^ o 1 2 ~59\nO 9I C ^ o 1 2 ~59\nO 9I C ^\nO 9I C ^\nO 9I C q vU wd 2yT\nO 9I C q vU wd 2yS\nO 9I C ^\nO 9I C ^\nO 9I C ^ o 1 2 ~59\nO bz C ^ F 3u5 a 5 1LQ ~59 1 ~59 1MO ~59 2 ~7d RL ~9J\nO bz C ^ F 3u4 a 5 1LQ ~59 1 ~59 1MO ~59 2 ~7d RL ~9J\nO 9I C ^\nO 9I C ^ o 1 2 ~59\nO 9I C ^ o 1 2 ~59\nO 9I C ^ o 1 2 ~59\nO 9I C ^ o 1 2 ~59\nO 9I C ^ o 1 2 ~59\nO 9I C ^ o 1 1NE ~bb\nO 6l D ^\nO 6l D ^\nO 9I C q vU wb 2yN\nO 9I C q vU wb 2yM\nO 9I C ^\nO 9I C ^\nO 9I C ^\nO 9I C ^\nO 9I C ^\nO 9I C ^\nO 9I C ^\nO 9I C ^\nO 9I C ^\nO 9I C ^\nO 9I C ^\nO 9I C ^\nO 9I C ^\nO 9I C ^\nO 9I C ^\nO 6l D ^\nO 6l D ^\nO 9I C ^ o 1 2 ~59\nO 9I C ^\nO 6l D ^\nO 6l D ^\nO 9I C ^ o 1 2 ~59\nO 9I C ^\nO 6l D ^\nO 6l D ^\nO kA a 2 11W ~59 NL ~59\nO 8N a 9 11W ~59 1M1 3uv 1M2 ~59 1M3 ~7d 1M4 ~7d 1M5 ~8O 1M6 ~8P 1M7 ~59 1M8 ~8P\nT 5k P = 5b 1 8r 4 3ux 8r 8s 5l C ^ a 6 1LQ ~59 2 ~59 1L2 3wu 1KY 3wv 1L6 3wv 1M0 3ww\nT 5k P = vA 1 3ux 5 3uy 3ux 8r 8s 5l C ^ a 3 1LQ ~59 2 ~59 1L2 3wt\nT 5k P = vB 1 3ux 5 3uz 3ux 8r 8s 5l C ^ a 3 1LQ ~59 2 ~59 1L2 3ws\nT 5k P = vC 1 3ux 5 3uA 3ux 8r 8s 5l C ^ a 3 1LQ ~59 2 ~59 1L2 3wr\nT 5k P = vD 1 3ux 5 3uB 3ux 8r 8s 5l C ^ a 3 1LQ ~59 2 ~59 1L2 3wq\nT 5k P = vE 1 3ux 5 3uC 3ux 8r 8s 5l C ^ a 3 1LQ ~59 2 ~59 1L2 3wp\nT 5k P = vF 1 3uC 6 3uD 3uC 3ux 8r 8s 5l C ^ a 3 1LQ ~59 2 ~59 1L2 3wo\nT 5k P = vG 1 3uC 6 3uE 3uC 3ux 8r 8s 5l C ^ a 2 1LQ ~59 2 ~59\nT 5k P = vH 1 3uC 6 3uF 3uC 3ux 8r 8s 5l C ^ a 3 1LQ ~59 2 ~59 1L2 3wn\nT 5k P = vI 1 3ux 5 3uG 3ux 8r 8s 5l C ^ a 5 1LQ ~59 2 ~59 1L2 3wi Ik 3wj 1Nk 3wk\nT 5k P = vJ 1 3uG 6 3uH 3uG 3ux 8r 8s 5l C ^ a 3 1LQ ~59 2 ~59 1L2 3wh\nT 5k P = vL 1 5l 2 3uI 5l C ^ a 8 1LQ ~59 2 ~59 2yY 3wb 2yZ 3wc 2z0 3wd 2z1 3we 1L3 3wf 1M0 3wg\nT 5k P = vM 1 3uI 3 3uJ 3uI 5l C ^ a 6 1LQ ~59 2 ~59 2z2 ~oB 2yY 3w8 2yZ 3w9 2z3 3wa\nT 5k P = vN 1 3uI 3 3uK 3uI 5l C ^ a 6 1LQ ~59 2 ~59 2z2 ~oB 2yY 3w5 2yZ 3w6 2z3 3w7\nT 5k P = vO 1 3uI 3 3uL 3uI 5l C ^ a 7 1LQ ~59 2 ~59 2z2 ~oB 1L2 3w0 2yY 3w1 2yZ 3w2 2z4 3w3\nT hS P = vP 1 zL 8 3uM zL zM zN zO zP zQ 5l C ^ a T 1LQ ~59 2 ~59 2z5 ~59 2z6 ~59 2z7 ~59 2z8 ~3uI 2z9 ~oB 2za ~oB 2zb ~oB 2zc ~oB 2zd ~9J 1L2 3vj 2ql 3vk 2ze 3vl 29E 3vm 2zf 3vn 2cF 3vo 13k 3vp 2jB 3vq 2zg 3vr 2zh 3vs 2l6 3vt 1NF 3vu 2dU 3vv 2zi 3vw 2zj 3vx 2zk 3vy 2zl 3vz 1NJ 3vA 1NH 3vB 2zm 3vC 2jN 3vD pW 3vE 13o 3vF 2zn 3vG 2jO 3vH 2zo 3vI 11d 3vJ 11e 3vK 11c 3vL 11b 3vM 1L9 3vN 1L7 3vO 2kY 3vP 2zp 3vQ 2zq 3vR 2zr 3vS 2zs 3vT 2zt 3vU 2zu 3vV 2zv 3vW 1L3 3vX 1M0 3vY 1MQ ~i2 1P3 ~i3\nT hS P = vQ 1 3uM 9 3uN 3uM zL zM zN zO zP zQ 5l C ^ a 8 1LQ ~59 2 ~59 2z8 ~3uJ pW 3vg 29E 3vh 2zq 3vi 1MQ ~i2 1P3 ~i3\nT hS P = vR 1 3uN a 3uO 3uN 3uM zL zM zN zO zP zQ 5l C ^ a 5 1LQ ~59 2 ~59 1L2 3vf 1MQ ~i2 1P3 ~i3\nT hS P = vS 1 zL 8 3uP zL zM zN zO zP zQ 5l C ^ a i 1LQ ~59 2 ~59 1L2 3uZ 1KY 3v0 11d 3v1 11e 3v2 11c 3v3 11b 3v4 1L9 3v5 1L7 3v6 2zw 3v7 LS 3v8 11W 3v9 1NF 3va 1L3 3vb 1M0 3vc 1MQ ~i2 1P3 ~i3\nT hS P = vT 1 zL 8 3uQ zL zM zN zO zP zQ 5l C ^ a d 1LQ ~59 2 ~59 2zx ~oB 1L2 3uR 11d 3uS 11e 3uT 11c 3uU 1L7 3uV 1L9 3uW 1L3 3uX 1M0 3uY 1MQ ~i2 1P3 ~i3\nO 9I C ^\nO 9I C ^\nO 9I C ^\nO 9I C ^\nO 9I C ^\nO 9I C ^\nO 6l D ^\nO 6l D ^\nO 9I C ^ o 1 2 ~59\nO 9I C ^\nO 9I C ^\nO 9I C ^\nO 9I C ^\nO 9I C ^\nO 9I C ^\nO 9I C ^\nO 9I C ^\nO 9F o 2 2 ~7d 1Ns 3ve\nO 9F o 2 2 ~7d 1Ns 3vd\nO 9I C ^ o 3 1NE ~bb 2 ~59 1Nr ~9J\nO 6l D ^\nO 6l D ^\nO 9I C q vu vS 11W\nO 9I C q vu vS LS\nO 9I C ^ o 1 1NB ~bb\nO 9I C ^ o 3 1NB ~bb 1NE ~bb 2 ~59\nO 9I C ^ o 2 1NB ~bb 2 ~59\nO 9I C ^ o 1 2 ~59\nO 9I C ^ o 2 1NE ~bb 1Nr ~9J\nO 9I C ^\nO 9I C ^ o 1 2 ~59\nO 9I C ^ o 1 2 ~59\nO 9I C ^ o 1 2 ~59\nO 9I C ^ o 1 2 ~59\nO 9I C ^ o 2 1NE ~bb 2 ~59\nO 9I C ^ o 2 1NE ~bb 2 ~59\nO 9I C ^ o 2 1NE ~bb 2 ~59\nO 9I C ^ o 2 1NE ~bb 2 ~59\nO 9I C ^ o 2 1NE ~bb 2 ~59\nO 9I C ^ o 2 2 ~59 1Nr ~9J\nO 9I C ^\nO 9I C ^ o 1 1Nr ~9J\nO 9I C ^ o 1 1Nr ~9J\nO 9I C ^ o 1 1Nr ~9J\nO 9I C ^ o 1 1Nr ~9J\nO 9I C ^ o 3 1NB ~bb 1NE ~bb 2 ~59\nO 9I C ^ o 1 2 ~59\nO 9I C ^\nO 9I C ^ o 1 2 ~59\nO 9I C ^ o 2 1NE ~bb 2 ~59\nO 9I C ^ o 2 1NE ~bb 2 ~59\nO 9I C ^ o 1 2 ~59\nO 9I C ^ o 1 2 ~59\nO 9I C ^ o 1 2 ~59\nO 9I C ^\nO 9I C ^\nO 9I C ^\nO 9I C ^\nO 9I C ^\nO 9I C ^\nO 9I C ^ o 1 2 ~59\nO 9I C ^\nO 9I C ^ o 1 2 ~59\nO 9I C ^\nO 9I C ^ o 1 2 ~59\nO 9I C ^ o 1 2 ~59\nO 9I C ^ o 2 2 ~59 1Nr ~9J\nO 9F o 2 2 ~7d 1Ns 3vZ\nO 6l D ^\nO 6l D ^\nO 9I C q vu vP 2zv\nO 9I C ^ o 1 1NB ~bb\nO 9I C ^\nO 9I C ^\nO bz C ^ F 3w4 a 5 1LQ ~59 1 ~59 1MO ~59 2 ~7d RL ~9J\nO 9I C q vu vO 2z4\nO 9I C ^\nO 9I C ^\nO 9I C ^\nO 9I C ^\nO 9I C ^\nO 9I C ^\nO 9I C ^\nO 9I C ^\nO 9I C ^\nO 9I C ^\nO 6l D ^ Z k ~9J\nO 6l D ^ Z k ~7d\nO 9I C ^\nO 9I C ^ o 1 1NE ~bb\nO 9F o 2 1Ns 3wl 1Nt 3wm\nO 9I C ^\nO 9I C q vu vI Ik o 1 2 ~59\nO 9I C q vu vI Ik o 1 2 ~59\nO 9I C ^\nO 9I C ^\nO 9I C ^\nO 9I C ^\nO 9I C ^ o 1 1NE ~bb\nO 9I C ^ o 1 1NE ~bb\nO 9I C ^\nO 9I C ^ o 1 1NE ~bb\nO 9I C ^\nO 6l D ^\nO kA a 2 11W ~59 NL ~59\nO 8N a 9 11W ~59 1M1 3wx 1M2 ~59 1M3 ~7d 1M4 ~7d 1M5 ~8O 1M6 ~8P 1M7 ~59 1M8 ~8P\nO zh a 5 1Rq ~9J 21s 3x0 21t ~8O 21u ~ns 2g3 ~8P o 1 1M0 ~z7\nO 9I C ^\nT 5k P = va 1 5l 2 3wB 5l C ^ a 7 1LQ ~59 1L2 3wV 1pJ 3wW 1Nq 3wX 1L3 3wY 1M0 3wZ 2 ~7d o 1 2 ~7d\nO 9I C ^\nT 5k P = vt 1 3wT 6 3wD 3wT 17G 8r 8s 5l C ^ a 2 1LQ ~59 2 ~59\nT 5k P = uw 1 3wF 3 3wE 3wF 5l C o 1c a 8 1LQ ~59 1vU 3wG 1L2 3wH 2zy 3wI 2zz 3wJ 2zA 3wK VV 3wL 2 ~7d o 1 2 ~7d\nT 5k P = uo 1 5l 2 3wF 5l C o 1a a 9 1LQ ~59 2 ~59 2zy 3wM pS 3wN VV 3wO 1P8 3wP 1P9 3wQ 1L3 3wR 1M0 3wS\nO KR C q pA Rh 1PP\nO 9I C ^ o 2 1NE ~bb 2 ~59\nO 9I C ^ o 1 2 ~59\nO 9I C ^\nO 9I C ^\nO 9I C ^ o 3 1NE ~bb 2 ~59 1Nr ~9J\nO 9I C ^ o 1 2 ~59\nO 9I C ^ o 2 2 ~59 1Nr ~9J\nO 9I C ^ o 3 1NE ~bb 2 ~59 1Nr ~9J\nO 9I C ^\nO 9I C ^\nO 6l D ^\nO 6l D ^\nT 5k P = um 1 17G 5 3wT 17G 8r 8s 5l C o 1a a 3 1LQ ~59 2 ~59 1M0 3wU\nO 6l D ^\nO 9I C ^\nO 9I C ^\nO b0 F Aj a 4 1LQ ~59 1 ~59 1MO ~59 2 ~59\nO 6l D ^\nO 6l D ^\nO 9I C q uY 2g4 12r o 1 1NE ~bb\nO kA a 2 11W ~59 NL ~59\nO 8N a 9 11W ~59 1M1 3x1 1M2 ~59 1M3 ~7d 1M4 ~7d 1M5 ~8O 1M6 ~8P 1M7 ~59 1M8 ~8P\nO zh a 5 1Rq ~9J 21s 3y3 21t ~8O 21u ~ns 2g3 ~8P o 1 1M0 ~z7\nT 5k P = v3 1 5l 2 3x4 5l C ^ a 8 1LQ ~59 1L2 3xX eD 3xY 2zB 3xZ 1Nj 3y0 1L3 3y1 1M0 3y2 2 ~7d o 1 2 ~7d\nO 9I C ^\nT 5k P = v7 1 8r 4 3x6 8r 8s 5l C ^ a 5 1LQ ~59 1L2 3xU 1L6 3xV 1M0 3xW 2 ~7d o 1 2 ~7d\nT 5k P = v8 1 5l 2 3x7 5l C ^ a 6 1LQ ~59 1L2 3xQ 1MS 3xR 1L3 3xS 1M0 3xT 2 ~7d o 1 2 ~7d\nO 9I C ^\nT 5k P = va 1 5l 2 3x9 5l C ^ a 5 1LQ ~59 1L2 3xN 1L3 3xO 1M0 3xP 2 ~7d o 1 2 ~7d\nT 5k P = vb 1 5l 2 3xa 5l C ^ a 5 1LQ ~59 1L2 3xK 1L3 3xL 1M0 3xM 2 ~7d o 1 2 ~7d\nT 5k P = vc 1 5l 2 3xb 5l C ^ a 5 1LQ ~59 1L2 3xH 1L3 3xI 1M0 3xJ 2 ~7d o 1 2 ~7d\nT 5k P = vd 1 2mi 3 3xc 2mi 5l C ^ a 4 1LQ ~59 2 ~59 1L2 3xF 2kz 3xG\nO 9I C ^ o 1 2 ~59\nO 9I C ^ o 1 2 ~59\nO 9I C ^ o 2 1NE ~bb 2 ~59\nO 9I C ^ o 2 1NE ~bb 2 ~59\nT 5k P = vi 1 180 3 3xh 180 5l C ^ a d 1LQ ~59 2 ~59 1L2 3xu 1pJ 3xv 2zC 3xw 2zD 3xx 2zE 3xy 2zF 3xz 2zG 3xA 2zH 3xB 2zI 3xC 2zJ 3xD 2zK 3xE\nO 9I C ^\nO 9I C ^ o 1 2 ~59\nT 5k P = vn 1 3wT 6 3xk 3wT 17G 8r 8s 5l C ^ a 2 1LQ ~59 2 ~59\nT 5k P = uu 1 3wF 3 3xl 3wF 5l C o 1b a a 1LQ ~59 1L2 3xm 2zL 3xn 2zM 3xo 2zN 3xp 2zO 3xq 2zy 3xr pS 3xs VV 3xt 2 ~7d o 1 2 ~7d\nO 9I C ^ o 3 1NE ~bb 2 ~59 1Nr ~9J\nO 9I C ^\nO 9I C ^\nO 9I C ^\nO 9I C ^\nO 9I C ^ o 1 2 ~59\nO 9I C ^ o 3 1NB ~bb 2 ~59 1Nr ~9J\nO 9I C ^ o 3 1NE ~bb 2 ~59 1Nr ~9J\nO 9I C ^ o 1 1NB ~bb\nO 9I C ^\nO 9I C ^\nO 9I C ^\nO 9I C ^\nO 9I C ^\nO 9I C ^\nO 9I C ^\nO 9I C ^\nO 9I C ^\nO 9I C ^\nO 9I C ^ o 2 1NB ~bb 1NE ~bb\nO 9I C ^ o 1 1NB ~bb\nO 9I C ^\nO 6l D ^\nO 6l D ^\nO 9I C ^ o 1 1NE ~bb\nO 6l D ^\nO 6l D ^\nO 9I C ^\nO 6l D ^\nO 6l D ^\nO 9I C ^\nO 9I C ^\nO 6l D ^\nO 6l D ^\nO 9I C ^\nO 9I C ^\nO 6l D ^\nO 9I C ^\nO 9I C ^\nO 9I C ^\nO 9I C ^\nO 6l D ^\nO 6l D ^\nO 9I C q uY 2g4 12r o 1 1NE ~bb\nO kA a 2 11W ~59 NL ~59\nO 8N a 9 11W ~59 1M1 3y4 1M2 ~59 1M3 ~7d 1M4 ~7d 1M5 ~8O 1M6 ~8P 1M7 ~59 1M8 ~8P\nO 1Kq a 9 lK ~8O 11W ~59 2a9 ~5j 1Ng 1Kr 2aa ~8P W0 ~8O 2ab ~8P DH ~9J 2ac 1Ks\nT 5k P = 5b 1 8r 4 3y7 8r 8s 5l C ^ a 3 1LQ ~59 2 ~59 1M0 3za\nT 5k P = uk 1 3y7 5 3y8 3y7 8r 8s 5l C o 1a a 2 1LQ ~59 2 ~59\nT 5k P = ul 1 3y7 5 3y9 3y7 8r 8s 5l C o 1a a 2 1LQ ~59 2 ~59\nT 5k P = uK 1 5l 2 3ya 5l C ^ a 8 1LQ ~59 2 ~59 1L2 3z4 2zP 3z5 2zQ 3z6 2zR 3z7 1L3 3z8 1M0 3z9\nT 5k P = uL 1 3ya 3 3yb 3ya 5l C ^ a 6 1LQ ~59 2 ~59 1L2 3z0 2zP 3z1 2zQ 3z2 2zR 3z3\nT 5k P = uM 1 3ya 3 3yc 3ya 5l C ^ a 5 1LQ ~59 2 ~59 2zP 3yX 2zQ 3yY 2zR 3yZ\nT 5k P = uN 1 3ya 3 3yd 3ya 5l C ^ a 7 1LQ ~59 2 ~59 1L2 3yS 2zS 3yT 2zP 3yU 2zQ 3yV 2zR 3yW\nT 5k P = uO 1 5l 2 3ye 5l C ^ a 7 1LQ ~59 2 ~59 1L2 3yN 1P8 3yO 1P9 3yP 1L3 3yQ 1M0 3yR\nO 9I C ^\nO 9I C ^ o 1 2 ~59\nO 9I C o 1a o 2 1NE ~bb 2 ~59\nT 5k P = uR 1 bb 3 3yi bb 5l C ^ a e 2 ~59 1On ~bb 1Xk ~bb 1Xl ~9J 1KX 3yD 1Xm 3yE 1Xn 3yF 1KY 3yG 1Xo 3yH 1LP 3yI 1Xp ~bb 2uD 3yJ 2zT 3yK 1LQ ~59\nO 9I C o 1a o 2 1NE ~bb 2 ~59\nO 9I C ^ o 1 1NE ~bb\nT 5k P = un 1 5l 2 3yl 5l C o 1a a j 1LQ ~59 2 ~59 1L2 3ym 2zU 3yn 1KY 3yo 21U 3yp 2zV 3yq 2zW 3yr 2uD 3ys 2zX 3yt 2zY 3yu 2zZ 3yv VR 3yw 2A0 3yx 2A1 3yy 2A2 3yz 1Nq 3yA 1L3 3yB 1M0 3yC\nO 9I C ^ o 1 2 ~59\nO 9I C ^\nO 9I C ^\nO 9I C ^ o 1 2 ~59\nO 9I C ^ o 1 2 ~59\nO 9I C ^ o 1 2 ~59\nO 9I C ^ o 1 2 ~59\nO 9I C q ux un 2A3\nO 9I C ^ o 1 2 ~59\nO 9I C ^ o 2 1NE ~bb 2 ~59\nO 9I C ^ o 2 1NE ~bb 2 ~59\nO 9I C ^ o 1 2 ~59\nO 9I C ^ o 1 2 ~59\nO 9I C ^ o 1 2 ~59\nO b0 F Aj a 4 1LQ ~59 1 ~59 1MO ~59 2 ~59\nO 6l D ^\nO 6l D ^\nO bz C t 1NP F 3yM\nO b0 F 3yL a 5 1LQ ~59 1 ~59 1MO ~59 2 ~7d RL ~9J\nO 9I C q tH uR 1Xn o 2 1NB ~bb 2 ~59\nO 9I C q tH uR 1KY o 2 1NB ~bb 2 ~59\nO 9I C q tH uR 1Xo o 2 1NB ~bb 2 ~59\nO 9I C q tH uR 1LP o 2 1NB ~bb 2 ~59\nO Jp\nO Jp\nO 9I C q tH uR 1Xm o 2 1NB ~bb 2 ~59\nO 9I C q 2A4 uR 1KX o 1 2 ~59\nO 9I C ^\nO 9I C ^\nO 9I C ^\nO 6l D ^\nO 6l D ^\nO 9I C ^ o 1 1NB ~bb\nO 9I C ^\nO 9I C ^ o 1 1NB ~bb\nO 9I C ^ o 1 1NB ~bb\nO 9I C ^ o 1 1NB ~bb\nO 9I C ^ o 1 1NB ~bb\nO 9I C ^ o 1 1NB ~bb\nO 9I C ^ o 1 1NB ~bb\nO 9I C ^ o 1 1NB ~bb\nO 9I C ^ o 1 1NB ~bb\nO 9I C ^ o 1 1NB ~bb\nO 9I C ^ o 1 1NB ~bb\nO 9I C ^\nO 9I C ^\nO 9I C ^\nO 9I C ^\nO 6l D ^\nO 6l D ^\nO 6l D ^\nO kA a 2 11W ~59 NL ~59\nO 8N a 9 11W ~59 1M1 3zb 1M2 ~59 1M3 ~7d 1M4 ~8O 1M5 ~8O 1M6 ~8P 1M7 ~59 1M8 ~8P\nO 9I C ^\nO 9I C ^\nO kA a 2 11W ~59 NL ~59\nO 8N a 9 11W ~59 1M1 3zf 1M2 ~59 1M3 ~7d 1M4 ~8O 1M5 ~8O 1M6 ~8P 1M7 ~59 1M8 ~8P\nO kA a 2 11W ~59 NL ~59\nO 8N a 9 11W ~59 1M1 3zh 1M2 ~59 1M3 ~7d 1M4 ~7d 1M5 ~8O 1M6 ~8P 1M7 ~59 1M8 ~8P\nO 9I C ^\nO 9I C ^\nO 9I C ^\nO 9I C ^\nO 9I C ^\nO 9I C ^\nO kA a 2 11W ~59 NL ~59\nO 8N a 9 11W ~59 1M1 3zp 1M2 ~59 1M3 ~7d 1M4 ~7d 1M5 ~8O 1M6 ~8P 1M7 ~59 1M8 ~8P\nO kA a 2 11W ~59 NL ~59\nO 8N a 9 11W ~59 1M1 3zr 1M2 ~59 1M3 ~7d 1M4 ~8O 1M5 ~8O 1M6 ~8P 1M7 ~59 1M8 ~8P\nT hS P = tS 1 RD 9 3zt RD Rb Rk zN zO zP zQ 5l C ^ a 7 1LQ ~59 1Ni 3AQ 1L3 3AR 1M0 3AS 2 ~7d 1MQ ~i2 1P3 ~i3\nT hS P = tT 1 Rj 9 3zu Rj Rb Rk zN zO zP zQ 5l C ^ a 7 1LQ ~59 1Ni 3AN 1L3 3AO 1M0 3AP 2 ~7d 1MQ ~i2 1P3 ~i3\nT hS P = tU 1 Ra 8 3zv Ra Rb zN zO zP zQ 5l C ^ a 7 1LQ ~59 1Ni 3AK 1L3 3AL 1M0 3AM 2 ~7d 1MQ ~i2 1P3 ~i3\nT 5k P = tV 1 5l 2 3zw 5l C ^ a 7 1LQ ~59 1On ~bb 1Wg 3AG pp 3AH 2A5 3AI 1M0 3AJ 2 ~7d o 1 2 ~7d\nO 7c C ^ S 7\nT hS P = u1 1 Sp 8 3zy Sp Sq zN zO zP zQ 5l C ^ a 1d 1LQ ~59 1L2 3zz 1L6 3zA 1KY 3zB 1Ml 3zC 1Mm 3zD 1Ye 3zE 1L5 3zF 1LP 3zG 10L 3zH 10J 3zI 10K 3zJ 10O 3zK 10N 3zL 11b 3zM 1L9 3zN 11d 3zO 10R 3zP 1Ma 3zQ 110 3zR 1La 3zR 10Z 3zS 1L8 3zT 1Lc 3zU 1Ld 3zV 1Lf 3zW Rh 3zX 1Lw 3zY 1Lx 3zZ 31 3A0 1Lv 3A1 1Lg 3A2 Kh 3A3 p9 3A4 1LL 3A5 cc 3A6 1LG 3A7 1LH 3A8 1Ly 3A9 1LD 3Aa 1LE 3Ab 1LI 3Ac 1Lz 3Ad 1LF 3Ae 1LJ 3Af 1LC 3Ag 1LB 3Ah 1LA 3Ai 10i 3Aj 1Li 3Ak 1Lj 3Al 1Lk 3Am 1LN cW 1Lh 3An z5 3Ao 1Ll 3Ap 1Lm 3Aq 1Ln 3Ar 1Lp 3As 1Lo 3At 10k 3Au 1Lb 3Av 1Lq 3Aw 1Lu 3Ax 1Lr 3Ay 1Ls 3Az 1Le 3AA Iw 3AB 1Lt 3AC 1LK 3AD 1L3 3AE 1M0 3AF 2 ~7d 1MQ ~i2 1P3 ~i3\nO 9I C ^\nO 9I C ^\nO 9I C ^\nO 9I C ^\nO 9I C ^\nO 9I C ^\nO 9I C ^\nO 9I C ^\nO 9I C ^\nO 9I C ^\nO 9I C ^\nO 9I C ^\nO 9I C ^\nO 9I C ^\nO 9I C ^\nO 9I C ^\nO 9I C ^\nO 9I C ^\nO 9I C ^\nO 9I C ^\nO 9I C ^\nO 9I C ^\nO 9I C ^\nO 9I C ^\nO 9I C ^ o 1 1NE ~bb\nO 9I C ^\nO 9I C ^\nO 9I C ^ o 1 1NE ~bb\nO 9I C ^ o 1 1NE ~bb\nO 9I C ^ o 1 1NE ~bb\nO 9I C ^ o 1 1NE ~bb\nO 9I C ^\nO 9I C ^\nO 9I C ^ o 1 1NE ~bb\nO 9I C ^\nO 9I C ^\nO 9I C ^\nO 9I C ^\nO 9I C ^\nO 9I C ^\nO 9I C ^\nO 9I C ^\nO 9I C ^\nO 9I C ^\nO 9I C ^\nO 9I C ^\nO 9I C ^\nO 9I C ^\nO 9I C ^\nO 9I C ^ o 1 1NE ~bb\nO 9I C ^\nO 9I C ^ o 1 1NE ~bb\nO 9I C ^ o 1 1NE ~bb\nO 9I C ^ o 1 1NE ~bb\nO 9I C ^\nO 9I C ^\nO 9I C ^ o 1 1NE ~bb\nO 9I C ^ o 1 1NE ~bb\nO 9I C ^ o 1 1NE ~bb\nO 9I C ^ o 1 1NE ~bb\nO 9I C ^ o 1 1NE ~bb\nO 9I C ^ o 1 1NE ~bb\nO 9I C ^\nO 9I C ^\nO 9I C ^\nO 9I C ^\nO 9I C ^\nO 6l D ^\nO 6l D ^\nO 6v D ^\nO 6v D ^\nO 6v D ^\nO 6l D ^\nO 9I C ^\nO 6l D ^\nO 6l D ^\nO 9I C ^\nO 6l D ^\nO 6l D ^\nO 9I C ^\nO 6l D ^\nO 6l D ^\nO kA a 2 11W ~59 NL ~59\nO 8N a 9 11W ~59 1M1 3AT 1M2 ~59 1M3 ~7d 1M4 ~7d 1M5 ~8O 1M6 ~8P 1M7 ~59 1M8 ~8P\nO 9I C ^\nO 9I C ^\nO 9I C ^ o 1 1NE ~bb\nO 9I C o 14 o 2 1NE ~bb 2 ~59\nT 5k P = tG 1 5l 2 3AZ 5l C ^ a 6 1LQ ~59 2 ~59 1L2 3B5 10T 3B6 1L3 3B7 1M0 3B8\nT 5k P = sN 1 5l 2 3B0 5l C o 14 a 6 1LQ ~59 2 ~59 1L2 3B1 10T 3B2 1L3 3B3 1M0 3B4\nO 9I C ^\nO 9I C ^ o 2 1NE ~bb 2 ~59\nO 6l D ^\nO 6l D ^\nO 9I C ^\nO 9I C ^\nO 6l D ^\nO 6l D ^\nO 8N a 9 11W ~59 1M1 d6 1M2 ~59 1M3 3CM 1M4 ~7d 1M5 ~8O 1M6 ~8P 1M7 ~7d 1M8 ~8P o 1 1M9 ~7d\nO 7c C ^ S 6\nO 7c C ^ S 6\nO 7c C ^ S 6\nO 7c C ^ S 6\nO 7c C ^ S 6 o 1 2 ~7d\nO 7c C ^ S 6 o 1 2 ~7d\nO 7c C ^ S 6 o 1 2 ~7d\nO 7c C ^ S 6 o 1 2 ~7d\nO 7c C ^ S 6 o 1 2 ~7d\nO 7c C ^ S 6 o 1 2 ~7d\nO 7c C ^ S 6 o 1 2 ~7d\nO 7c C ^ S 6 o 1 2 ~7d\nO 7c C ^ S 6 o 1 2 ~7d\nO 7c C ^ S 6 o 1 2 ~7d\nO 7c C ^ S 6 o 1 2 ~7d\nO 7c C ^ S 6 o 1 2 ~7d\nO 7c C ^ S 6 o 1 2 ~7d\nO 7c C ^ S 6 o 1 2 ~7d\nO 7c C ^ S 6 o 1 2 ~7d\nO 7c C ^ S 6 o 1 2 ~7d\nO 7c C ^ S 6 o 1 2 ~7d\nO 7c C ^ S 6 o 1 2 ~7d\nO 7c C ^ S 6 o 1 2 ~7d\nO 7c C ^ S 6 o 1 2 ~7d\nO 7c C ^ S 6 o 1 2 ~7d\nO 7c C ^ S 6 o 1 2 ~7d\nO 7c C ^ S 6 o 1 2 ~7d\nO 7c C ^ S 6 o 1 2 ~7d\nO 7c C ^ S 6 o 1 2 ~7d\nO 7c C ^ S 6 o 1 2 ~7d\nO 7c C ^ S 6 o 1 2 ~7d\nO 7c C ^ S 6 o 1 2 ~7d\nO 7c C ^ S 6 o 1 2 ~7d\nO 7c C ^ S 6 o 1 2 ~7d\nO 7c C ^ S 6\nO 7c C ^ S 6\nT 5k P = t7 1 bb 3 3BK bb 5l C ^ a 6 1LQ ~59 2 ~59 2A6 ~8P 1KX 3CI 1KY 3CJ 1L3 3CK\nT 5k P = ta 1 3cl 3 3BL 3cl 5l C ^ a 8 1LQ ~59 2 ~59 1L2 3CC 2A7 3CD 31 3CE 1Qq 3CF 1cU 3CG 1cV 3CH\nT 5k P = tf 1 5l 2 3BM 5l C ^ a j 1LQ ~59 2 ~59 1SI ~59 1L2 3Cm 13k 3Cn 1OV 3Co 1PU 3Cp 1PP 3Cq 1L7 3Cr 13o 3Cs 1PV 3Ct 1Qq 3Cu 1OQ 3Cv us 3Cw 1P8 3Cx 1P9 3Cy 1MR 3Cz 1L3 3CA 1M0 3CB\nT 5k P = tg 1 5l 2 3BN 5l C ^ a k 1LQ ~59 2 ~59 2A8 ~59 2A9 ~59 1L2 3C6 13k 3C7 1OV 3C8 1PU 3C9 1PP 3Ca 1L7 3Cb 13o 3Cc 1PV 3Cd 1Qq 3Ce 1OQ 3Cf us 3Cg 1P8 3Ch 1P9 3Ci 1MR 3Cj 1L3 3Ck 1M0 3Cl\nO 9I C ^ o 2 1NE ~bb 2 ~59\nO 9I C ^ o 2 1NE ~bb 2 ~59\nO 9I C ^ o 1 2 ~59\nO 9I C ^ o 1 2 ~59\nO 9I C ^ o 1 2 ~59\nO 9I C ^ o 1 2 ~59\nO 9I C ^ o 1 2 ~59\nO 9I C ^ o 1 2 ~59\nO 9I C ^ o 2 1NE ~bb 2 ~59\nO 9I C ^ o 2 1NE ~bb 2 ~59\nO 9I C ^ o 1 2 ~59\nO 9I C ^ o 1 2 ~59\nO 7c C q pA - ts S ~7d o 2 1LQ ~7d 1L4 ~7d\nO 7c C q pA - tt S ~7d o 2 1LQ ~7d 1L4 ~7d\nO 7c C q pA - tu S ~7d o 2 1LQ ~7d 1L4 ~7d\nO 7c C q pA - tv S ~7d o 2 1LQ ~7d 1L4 ~7d\nO 7c C q pA - tw S ~7d o 2 1LQ ~7d 1L4 ~7d\nO 7c C q pA - tx S ~7d o 2 1LQ ~7d 1L4 ~7d\nO 9I C ^ o 2 1NE ~bb 2 ~59\nO 9I C ^ o 1 1NE ~bb\nO 9I C ^ o 1 1NE ~bb\nO 9I C ^ o 1 1NE ~bb\nO 9I C ^ o 1 2 ~59\nO 9I C ^\nO 9I C ^\nO 9I C ^\nO 9I C ^\nO 9I C ^ o 1 1NE ~bb\nO 9I C ^ o 2 1NE ~bb 2 ~59\nO 9I C ^\nO 9I C ^\nO 9I C ^\nO 6l D ^\nO 6l D ^\nO 9I C ^ o 2 1NE ~bb 2 ~59\nO 9I C ^ o 1 1NE ~bb\nO 9I C ^ o 1 1NE ~bb\nO 9I C ^ o 1 1NE ~bb\nO 9I C ^ o 1 2 ~59\nO 9I C ^\nO 9I C ^\nO 9I C ^\nO 9I C ^\nO 9I C ^ o 1 1NE ~bb\nO 9I C ^ o 2 1NE ~bb 2 ~59\nO 9I C ^\nO 9I C ^\nO 9I C ^\nO 6l D ^\nO 6l D ^\nO 9I C ^ o 1 1NE ~bb\nO 9I C ^\nO 9I C ^ o 1 1NE ~bb\nO 9I C ^\nO 9I C ^\nO 9I C ^\nO bz C t 1NP F 3CL\nO 9I C ^\nO 6l D ^\nO 9I C q sS t7 1KX o 2 1NE ~bb 1Nr ~9J\nO fx a 2 Ik ~59 1Oj ~59\nO kA a 2 11W ~59 NL ~59\nO 8N a 9 11W ~59 1M1 3CN 1M2 ~59 1M3 ~7d 1M4 ~7d 1M5 ~8O 1M6 ~8P 1M7 ~59 1M8 ~8P\nT 5k P = sP 1 5l 2 3CP 5l C ^ a a 1LQ ~59 2 ~59 1L2 3CX 2Aa 3CY 2Ab 3CZ 2Ac 3D0 2Ad 3D1 13o 3D2 1L3 3D3 1M0 3D4\nT 5k P = sQ 1 3CP 3 3CQ 3CP 5l C ^ a 7 1LQ ~59 2 ~59 1L2 3CS 2Ae 3CT sR 3CU 2a4 3CV 2Af 3CW\nO 9I C ^ o 2 1NE ~bb 2 ~59\nO 9I C ^ o 2 1NE ~bb 2 ~59\nO 9I C ^ o 1 2 ~59\nO 9I C ^ o 2 1NE ~bb 2 ~59\nO 9I C ^ o 1 2 ~59\nO 9I C ^ o 2 1NE ~bb 2 ~59\nO 9I C ^ o 2 1NE ~bb 2 ~59\nO 9I C ^ o 2 1NE ~bb 2 ~59\nO 9I C ^ o 1 2 ~59\nO 9I C ^ o 2 1NE ~bb 2 ~59\nO 9I C ^ o 1 2 ~59\nO 9I C ^ o 1 2 ~59\nO 6l D ^\nO 6l D ^\nO kA a 2 11W ~59 NL ~59\nO 8N a 9 11W ~59 1M1 3D5 1M2 ~59 1M3 ~7d 1M4 ~7d 1M5 ~8O 1M6 ~8P 1M7 ~59 1M8 ~8P\nT 5k P = sK 1 5l 2 3D7 5l C ^ a x 1LQ ~59 2 ~59 2Ag ~59 2Ah ~59 2Ai ~59 2Aj ~59 2Ak ~7d 2Al ~59 2Am ~59 2An ~59 2Ao ~59 2Ap ~59 2Aq ~5j 1L2 3D8 2Ar 3D9 2As 3Da 2At 3Db 2Au 3Dc 2Av 3Dd 2Aw 3De 2Ax 3Df 2Ay 3Dg 29X 3Dh 2Az 3Di 2AA 3Dj 2AB 3Dk 2AC 3Dl 2AD 3Dm 2AE 3Dn 2AF 3Do 2AG 3Dp 1L3 3Dq 1M0 3Dr\nO 9I C ^ o 2 1NE ~bb 2 ~59\nO 9I C ^ o 2 1NE ~bb 2 ~59\nO 9I C ^ o 1 2 ~59\nO 9I C ^ o 1 2 ~59\nO 9I C ^ o 1 2 ~59\nO 9I C ^ o 1 2 ~59\nO 9I C ^ o 1 2 ~59\nO 9I C ^ o 1 2 ~59\nO 9I C ^ o 1 2 ~59\nO 9I C ^ o 1 2 ~59\nO 9I C ^ o 1 2 ~59\nO 9I C ^\nO 9I C ^ o 1 2 ~59\nO 9I C ^\nO 9I C ^\nO 9I C ^ o 1 2 ~59\nO 9I C ^\nO 9I C ^ o 2 1NE ~bb 2 ~59\nO 6l D ^\nO 6l D ^\nO 8N a 9 11W ~59 1M1 5a 1M2 ~59 1M3 ~7d 1M4 ~7d 1M5 ~8O 1M6 ~8P 1M7 ~7d 1M8 ~8P o 1 1M9 ~7d\nO 7c C ^ S 10\nO 7c C ^ S 10\nO 7c C ^ S 10\nO 7c C ^ S 10\nO 7c C ^ S 10\nO 7c C ^ S 10\nO 7c C ^ S 10\nO 7c C ^ S 10\nO 7c C ^ S 10\nO 7c C ^ S 10\nO 7c C ^ S 10\nO 7c C ^ S 10\nO 7c C ^ S 10\nO 7c C ^ S 10\nO 7c C ^ S 10\nO 7c C ^ S 10\nO 7c C ^ S 10\nO 7c C ^ S 10\nO 7c C ^ S 10\nO 7c C ^ S 10\nO 7c C ^ S 10\nO 7c C ^ S 10\nO 7c C ^ S 10\nT 5k P = pJ 0 5l 2 3DQ 5l C ^ a v 1KX 3DR 1KY 3DS 1L5 3DT 1KZ 3DU 10J 3DV 10K 3DW 10L 3DX 10M 3DY 10O 3DZ 10N 3E0 10R 3E1 1Ma 3E2 117 3E3 1Mb 3E4 110 3E5 1La 3E6 115 3E7 1Me 3E8 112 3E9 114 3Ea 10Q 3Eb 1Mf 3Ec 118 3Ed 1Mo 3Ee 1Mp 3Ef 1Ye 3Eg 1LP 3Eh 1LM 3Ei 1My 3Ej 1Mz 3Ek 2 ~59 o 1 1L4 ~59\nO 7c C b S 3DQ o 1 1LQ ~7d\nO 6R C d D ^\nO 6R C d D ^\nO 6R C d D ^\nO 6R C d D ^\nO 6R C d D ^\nO 6R C d D ^\nO 6R C d D ^\nO 6R C d D ^\nO 6R C d D ^\nO 6R C d D ^\nO 6R C d D ^\nO 6R C d D ^\nO 6R C d D ^\nO 6R C d D ^\nO 6R C d D ^\nO 6R C d D ^\nO 6R C d D ^\nO 6R C d D ^\nO 6R C d D ^\nO 6R C d D ^\nO 6R C d D ^\nO 6R C d D ^\nO 6R C d D ^\nO 6G C d D ^ Y 7c\nO 6G C d D ^ Y 7c\nO 6G C d D ^ Y 7c o 1 2 ~7d\nO 6G C d D ^ Y 7c\nO 6v D ^ Z k ~17I o 1 2 ~59\nO 6v D ^ Z k ~17I o 1 2 ~59\nO kA a 2 11W ~59 NL ~59\nO 8N a 9 11W ~59 1M1 3El 1M2 ~59 1M3 ~7d 1M4 ~7d 1M5 ~8O 1M6 ~8P 1M7 ~59 1M8 ~8P\nT 5k P = rp 1 152 5 3En 152 8r 8s 5l C ^ a 5 1LQ ~59 1L2 3FW 1L6 3FX 1M0 3FY 2 ~7d o 1 2 ~7d\nT 5k P = rq 1 152 5 3Eo 152 8r 8s 5l C ^ a 5 1LQ ~59 1L2 3FT 1L6 3FU 1M0 3FV 2 ~7d o 1 2 ~7d\nT 5k P = ru 1 5l 2 3Ep 5l C ^ a 8 1LQ ~59 2AH ~8O 1L2 3FO 11d 3FP 1L9 3FQ 1L3 3FR 1M0 3FS 2 ~7d o 1 2 ~7d\nT 5k P = rv 1 5l 2 3Eq 5l C ^ a 8 1LQ ~59 2AI ~8O 1L2 3FJ 11d 3FK 1L9 3FL 1L3 3FM 1M0 3FN 2 ~7d o 1 2 ~7d\nO 3Eq a 1 p9 ~59\nO 3Eq a 1 p9 ~59\nO 3Ep a 1 p9 ~59\nO 3Ep a 1 p9 ~59\nO 9I C ^ o 1 2 ~59\nO 9I C ^ o 1 2 ~59\nO 9I C ^ o 1 2 ~59\nO 9I C ^ o 1 2 ~59\nO 9I C ^\nO 9I C ^\nO 9I C ^\nT 5k P = rO 1 5l 2 3EC 5l C ^ a k 1LQ ~59 2 ~59 1L2 3Ft 2AJ 3F6 rX 3Fu rW 3Fv 2AK 3Fw 2AL 3Fx 2AM 3Fy 2AN 3Fz 2AO 3FA 2AP 3FB 2AQ 3FC 2AR 3FD 2AS 3F5 2AT 3FE 2AU 3FF 2AV 3FG 1L3 3FH 1M0 3FI\nT 5k P = rP 1 3EC 3 3ED 3EC 5l C ^ a c 1LQ ~59 2 ~59 rZ 3F4 2AW 3Fq 2AX 3F3 2AY 3Fr 2AZ 3F2 2B0 3Fs s2 3F1 2B1 3F0 2B2 3EZ 2B3 3EY\nT 5k P = rQ 1 3EC 3 3EE 3EC 5l C ^ a h 1LQ ~59 2 ~59 2B4 ~8O 2B5 ~8O 2B6 ~59 2B7 ~59 2B8 ~59 2B9 ~59 2Ba ~59 2AW 3Fi 2AX 3Fj 2AY 3Fk 2AZ 3Fl 2B0 3Fm 2B1 3Fn 2B2 3Fo 2Bb 3Fp\nT 5k P = rR 1 5l 2 3EF 5l C ^ a 7 1LQ ~59 1L2 3Fd 1P8 3Fe 1P9 3Ff 1L3 3Fg 1M0 3Fh 2 ~7d o 1 2 ~7d\nO 9I C ^\nT 5k P = rT 1 3ED 4 3EH 3ED 3EC 5l C ^ a 5 1LQ ~59 2 ~59 1L2 3Fa 2AY 3Fb 2B0 3Fc\nT 5k P = rU 1 3EE 4 3EI 3EE 3EC 5l C ^ a 5 1LQ ~59 2 ~59 1L2 3F7 2AY 3F8 2B0 3F9\nO 3ED a 1 2Bc ~5j\nO WO C q rn rO 2AJ F 3F6 S 3EJ o 1 2 ~7d\nO 9I C ^\nO WO C q rn rO 2AS F 3F5 S 3EJ\nO WO C q rn rP rZ F 3F4 S 3EJ\nO WO C q rn rP 2AX F 3F3 S 3EJ\nO WO C q rn rP 2AZ F 3F2 S 3EJ\nO WO C q rn rP s2 F 3F1 S 3EJ\nO WO C q rn rP 2B1 F 3F0 S 3EJ\nO WO C q rn rP 2B2 F 3EZ S 3EJ\nO WO C q rn rP 2B3 F 3EY S 3EJ\nO 9I C ^ o 2 1NE ~bb 2 ~59\nO 9I C ^ o 2 1NE ~bb 2 ~59\nO 9I C ^ o 1 2 ~59\nO 9I C ^\nO 9I C ^ o 2 1NE ~bb 2 ~59\nO 9I C ^ o 2 1NE ~bb 2 ~59\nO 9I C ^ o 2 1NE ~bb 2 ~59\nO 9I C ^ o 2 1NE ~bb 2 ~59\nO 9I C ^ o 1 2 ~59\nO 9I C ^ o 1 2 ~59\nO 9I C ^ o 1 2 ~59\nO 9I C ^ o 1 2 ~59\nO 9I C ^\nO 9I C ^ o 1 1NE ~bb\nO 9I C ^ o 1 1NB ~bb\nO 9I C ^ o 2 1NB ~bb 1NE ~bb\nO 9I C ^ o 1 1NE ~bb\nO 9I C ^ o 1 1NB ~bb\nO 9I C ^ o 2 1NB ~bb 1NE ~bb\nO 9I C ^\nO 9I C ^\nO 9I C ^\nO 6l D ^\nO 6l D ^\nO 9I C ^ o 1 2 ~59\nO 9I C ^ o 1 2 ~59\nO 9I C ^ o 1 2 ~59\nO 9I C ^ o 1 2 ~59\nO 9I C ^ o 2 1NE ~bb 2 ~59\nO 9I C ^ o 2 1NE ~bb 2 ~59\nO 9I C ^ o 2 1NE ~bb 2 ~59\nO 9I C ^ o 2 1NE ~bb 2 ~59\nO 9I C ^ o 1 2 ~59\nO 9I C ^ o 1 2 ~59\nO 9I C ^ o 2 1NE ~bb 2 ~59\nO 9I C ^ o 1 1NE ~bb\nO 9I C ^\nO 9F I k ~5j o 3 2 ~7d 1Ns 3F6 1Nt 3Fu\nO 9I C ^ o 1 2 ~59\nO 9I C ^ o 1 2 ~59\nO 9I C ^ o 1 2 ~59\nO 9I C ^ o 1 2 ~59\nO 9I C ^ o 1 2 ~59\nO 9I C ^ o 1 2 ~59\nO 9I C ^ o 1 2 ~59\nO 9I C ^ o 1 2 ~59\nO 9I C ^ o 2 1NE ~bb 2 ~59\nO 9I C ^ o 2 1NE ~bb 2 ~59\nO 9I C ^ o 2 1NE ~bb 2 ~59\nO 6l D ^ I k ~9J\nO 6l D ^ I k ~7d\nO 9I C ^\nO 9I C ^\nO 9I C ^\nO 6l D ^ I k ~9J\nO 6l D ^ I k ~7d\nO 9I C ^\nO 9I C ^\nO 9I C ^\nO 6l D ^ I k ~9J\nO 6l D ^ I k ~7d\nO 9I C ^\nO 9I C ^\nO 6l D ^\nO 9I C ^\nO 9I C ^\nO 6l D ^\nO kA a 2 11W ~59 NL ~59\nO 8N a 9 11W ~59 1M1 3FZ 1M2 ~59 1M3 ~7d 1M4 ~7d 1M5 ~8O 1M6 ~8P 1M7 ~59 1M8 ~8P\nT 5k P 2Bd 2V 1 5l 2 3G1 5l C ^ a 6 1KX 3Gv 1L2 3Gw rl 3Gx 1OO 3Gy 2 ~59 1LQ ~59 o 1 1L4 ~59\nT 5k P 2Be 2W 1 5l 2 3G2 5l C ^ a 8 1KX 3Gp 1L2 3Gq rm 3Gr 2lc 3Gs 2le 3Gt 2ld 3Gu 2 ~59 1LQ ~59 o 1 1L4 ~59\nT hS P = rk 1 2s5 7 3G3 2s5 hT hU hV hW 5l C ^ a l 1LQ ~59 2 ~59 1L2 3G7 eD 3G8 1PW 3G9 In 3Ga 1P2 3Gb 1OX 3Gc 1P5 3Gd 1OW 3Ge 13k 3Gf 1OZ 3Gg 1PM 3Gh 1OV 3Gi 1PU 3Gj 13o 3Gk 1PV 3Gl 1OQ 3Gm 1OP 3Gn 1MQ ~i2 1P3 ~i3\nO 9I C ^ o 2 1NE ~bb 2 ~59\nO 9I C ^ o 2 1NE ~bb 2 ~59\nO 9I C ^ o 1 2 ~59\nO 9I C ^ o 3 1NE ~bb 2 ~59 1Nr ~9J\nO 9I C ^ o 1 2 ~59\nO 9F o 1 1Ns 3Go\nO 9I C ^ o 1 2 ~59\nO 9I C ^ o 1 2 ~59\nO 9I C ^ o 1 2 ~59\nO 9I C ^ o 1 2 ~59\nO 9I C ^ o 2 1NE ~bb 2 ~59\nO 9I C ^ o 2 1NE ~bb 2 ~59\nO 9I C ^ o 2 1NE ~bb 2 ~59\nO 9I C ^ o 1 2 ~59\nO 9I C ^ o 2 1NE ~bb 2 ~59\nO 9I C ^ o 2 1NE ~bb 2 ~59\nO 9I C ^ o 1 2 ~59\nO 9I C ^ o 1 2 ~59\nO 9I C ^ o 2 1NE ~bb 2 ~59\nO 9I C ^ o 1 2 ~59\nO 9I C q re rk 1PW o 1 2 ~59\nO 7c C b S 3G2 o 1 1LQ ~7d\nO 6R C d D ^\nO 6G C d D ^\nO 6v D ^ o 1 2 ~59\nO 6v D ^ o 1 2 ~59\nO 6v D ^ o 1 2 ~59\nO 7c C b S 3G1 o 1 1LQ ~7d\nO 6R C d D ^\nO 6G C d D ^\nO 6G C d D ^\nO 8N a 8 11W ~59 1M1 5a 1M2 ~59 1M3 ~7d 1M4 ~7d 1M5 ~8O 1M6 ~8P 1M7 ~7d o 1 1M9 ~7d\nO 7c C ^ S X o 1 1L4 ~7d\nO 7c C ^ S X\nO 7c C ^ S X\nO 7c C ^ S X\nO 7c C ^ S X\nO 7c C ^ S X o 1 1L4 ~7d\nO 7c C ^ S X\nO 7c C ^ S X\nO 7c C ^ S X\nO 7c C ^ S X\nO 7c C ^ S X o 1 1L4 ~7d\nO 7c C ^ S X\nO 7c C ^ S X\nO 7c C ^ S X\nO 7c C ^ S X\nO 7c C ^ S X o 1 1L4 ~7d\nO 7c C ^ S X\nO 7c C ^ S X\nO 7c C ^ S X\nO 7c C ^ S X\nO 7c C ^ S X\nO 7c C ^ S X\nO 7c C ^ S X o 1 1L4 ~7d\nO 7c C ^ S X\nO 7c C ^ S X\nO 7c C ^ S X\nO 7c C ^ S X o 1 1L4 ~7d\nO 7c C ^ S X o 1 1L4 ~7d\nO 7c C ^ S X o 1 1L4 ~7d\nO 7c C ^ S X\nO 7c C ^ S X\nO 7c C ^ S X\nO 7c C ^ S X\nO 7c C ^ S X\nO 7c C ^ S X\nO 7c C ^ S X\nO 7c C ^ S X\nO 7c C ^ S X\nO 7c C ^ S X o 1 1L4 ~7d\nT 5k P = pF 0 5l 2 3Hd 5l C ^ a A 1KX 3MJ 1KY 3MK 1L5 3ML 1KZ 3MM 10J 3MN 10K 3MO 10L 3MP 10M 3MQ 10O 3MR 10N 3MS 1L7 3MT 1L9 3MU 11d 3MV 11e 3MW 11c 3MX 1ah 3MY 2b4 3MZ pe 3N0 2b3 3N1 xK 3N2 2Bf 3N3 1P8 3N4 1P9 3N5 2eH 3N6 2Bg 3N7 2Bh 3N8 2b7 3N9 p9 3Na 2Bi 3Nb 2Bj 3Nc 2Bk 3Nd 2Bl 3Ne 2Bm 3Nf 2Bn 3Ng 2Bo 3Nh 2 ~59 o 1 1L4 ~59\nT 5k P = pG 0 5l 2 3He 5l C ^ a 1i 1KX 3Ls 1KY 3Lt 1L6 3Lu 1KZ 3Lv 10J 3Lw 10K 3Lx 10L 3Ly 10M 3Lz 10O 3LA 10N 3LB 1L7 3LC 1L2 3LD 10Z 3LE 1L8 3LF 1L9 3LG 11d 3LH 11e 3LI 11c 3LJ 10R 3LK 110 3LL 1La 3LM 11b 3LN 11f 3LO 11l 3LP 2Bp 3LQ 1MS 3LR 1MR 3LS 1LO 3LT 1Nk 3LU 1Lc 3LV 1Lf 3LW 1Nj 3LX wg 3LY Rh 3LZ 32 3M0 1Lv 3M1 1Lg 3M2 1Nm 3M3 Kh 3M4 1NT 3M5 pe 3M6 cc 3M7 1Nl 3M8 1LH 3M9 1LG 3Ma 1Ly 3Mb 1LE 3Mc 1Lz 3Md 1LC 3Me 1LB 3Mf 1LA 3Mg 10i 3Mh 1Li 3Mi 1Lj 3Mj 1Lk 3Mk 1LN 3Ml 1Lh 3Mm 1Nn 3Mn 12r 3Mo z5 3Mp 1Lw 3Mq 1Lx 3Mr 1No 3Ms 1Ll 3Mt 1Lm 3Mu 1Ln 3Mv 1Lp 3Mw 1Lb 3Mx 1Lo 3My 10k 3Mz 1Lq 3MA 1Lu 3MB 1Lr 3MC 1Ls 3MD 1Le 3ME Iw 3MF 1Lt 3MG 1LK 3MH 2 ~59 1L5 ~7d\nT 5k P = pL 0 5l 2 3Hf 5l C ^ a 7 1KX 3Lm 1KZ 3Ln 1L7 3Lo 1PP 3Lp 1MS 3Lq 1Nq 3Lr 2 ~59 o 1 1L4 ~59\nT 5k P = pM 0 5l 2 3Hg 5l C ^ a 6 1KX 3Lh 1KZ 3Li 1L7 3Lj 1PP 3Lk 1MS 3Ll 2 ~59\nT 5k P = pS 0 5l 2 3Hh 5l C ^ a 6 1KX 3Lc 1KZ 3Ld 1L7 3Le 1PP 3Lf 1MS 3Lg 2 ~59\nT 5k P = pU 0 5l 2 3Hi 5l C ^ a n 1KX 3KQ 1KY 3KR 1L5 3KS 1KZ 3KT 10J 3KU 10K 3KV 10L 3KW 10M 3KX 10O 3KY 10N 3KZ 1L7 3L0 1Mf 3L1 1L9 3L2 11d 3L3 11b 3L4 1Ni 3L5 1MS 3L6 Rh 3L7 cc 3L8 1Rr 3L9 2mm 3La 2Bq 3Lb 2 ~59\nT 5k P = pV 0 5l 2 3Hj 5l C ^ a 8 1KX 3KJ 1KZ 3KK 1L7 3KL 1PP 3KM 25g 3KN 1MS 3KO 1N8 3KP 2 ~59 o 1 1L4 ~59\nT 5k P = nj 0 5l 2 3Hk 5l C ^ a g 1KX 3Kv 1KY 3Kw 1L5 ~7d 1KZ 3Kx 10J 3Ky 10K 3Kz 10L 3KA 10M 3KB 10O 3KC 10N 3KD 2Br 3KE 1MS 3KF 1Rr 3KG 2mm 3KH 2Bq 3KI 2 ~59\nT 5k P = pZ 0 5l 2 3Hl 5l C ^ a 9 1KX 3Kn 1KY 3Ko 1KZ 3Kp 1MY 3Kq 1L2 3Kr 2Bs 3Ks 1N7 3Kt 2Bt 3Ku 2 ~59\nT 5k P = q2 0 5l 2 3Hm 5l C o X a 7 1KX 3Kh 1KZ 3Ki 1L7 3Kj 1PP 3Kk 1MS 3Kl 1N8 3Km 2 ~59\nT 5k P = q5 0 8s 3 3Hn 8s 5l C ^ a a 1KX 3K8 1L6 3K9 1L2 3Ka 1Nq 3Kb 2Bu 3Kc 10k 3Kd 2Bv 3Ke AX 3Kf Rr 3Kg 2 ~59\nT 5k P = q7 0 8s 3 3Ho 8s 5l C ^ a 3 1KX 3K6 1L2 3K7 2 ~59\nT 5k P = q8 0 8s 3 3Hp 8s 5l C ^ a 3 1KX 3K4 1L2 3K5 2 ~59\nT 5k P = q9 0 8s 3 3Hq 8s 5l C ^ a 3 1L2 3K2 sL 3K3 2 ~59\nT 5k P = qb 0 8r 4 3Hr 8r 8s 5l C ^ a 3 1KX 3K0 1L2 3K1 2 ~59\nT 5k P = qd 0 8r 4 3Hs 8r 8s 5l C ^ a 3 1KX 3JY 1L2 3JZ 2 ~59\nT 5k P = qe 0 8r 4 3Ht 8r 8s 5l C ^ a 3 1KX 3JW 1L2 3JX 2 ~59\nT 5k P = qh 0 8r 4 3Hu 8r 8s 5l C ^ a 3 1KX 3JU 1L2 3JV 2 ~59\nT 5k P = qi 0 8r 4 3Hv 8r 8s 5l C ^ a 4 1L6 3JR 1L2 3JS 11W 3JT 2 ~59\nT 5k P = qk 0 8r 4 3Hw 8r 8s 5l C ^ a 3 1KX 3JP 1L2 3JQ 2 ~59\nT 5k P = qm 0 8r 4 3Hx 8r 8s 5l C ^ a 3 1KX 3JN 1L2 3JO 2 ~59\nT 5k P = qn 0 8r 4 3Hy 8r 8s 5l C ^ a 3 1L2 3JL 1TK 3JM 2 ~59\nT 5k P = qt 0 3jW 5 3Hz 3jW 8r 8s 5l C ^ a 3 1KX 3JJ 1L2 3JK 2 ~59\nT 5k P = qu 0 3jW 5 3HA 3jW 8r 8s 5l C ^ a 3 1KX 3JH 1L2 3JI 2 ~59\nT 5k P = qw 0 37E 5 3HB 37E 8r 8s 5l C ^ a 3 1KX 3JF 1L2 3JG 2 ~59\nT 5k P = qx 0 37E 5 3HC 37E 8r 8s 5l C ^ a 3 1KX 3JD 1L2 3JE 2 ~59\nT 5k P = qy 0 37E 5 3HD 37E 8r 8s 5l C ^ a 3 1KX 3JB 1L2 3JC 2 ~59\nT 5k P = qz 0 37E 5 3HE 37E 8r 8s 5l C ^ a 3 1KX 3Jz 1L2 3JA 2 ~59\nT 5k P = qA 0 37E 5 3HF 37E 8r 8s 5l C ^ a 3 1KX 3Jx 1L2 3Jy 2 ~59\nT 5k P = qB 0 37E 5 3HG 37E 8r 8s 5l C ^ a 3 1KX 3Jv 1L2 3Jw 2 ~59\nT 5k P = qC 0 37E 5 3HH 37E 8r 8s 5l C ^ a 3 1KX 3Jt 1L2 3Ju 2 ~59\nT 5k P = qD 0 37E 5 3HI 37E 8r 8s 5l C ^ a 3 1KX 3Jr 1L2 3Js 2 ~59\nT 5k P = qE 0 37E 5 3HJ 37E 8r 8s 5l C ^ a 3 1KX 3Jp 1L2 3Jq 2 ~59\nT 5k P = qF 0 37E 5 3HK 37E 8r 8s 5l C ^ a 3 1KX 3Jn 1L2 3Jo 2 ~59\nT 5k P = qH 0 1sO 5 3HL 1sO 8r 8s 5l C ^ a 2 1L2 3Jm 2 ~59\nT 5k P = qI 0 1sO 5 3HM 1sO 8r 8s 5l C ^ a 2 1L2 3Jl 2 ~59\nT 5k P = qJ 0 1sO 5 3HN 1sO 8r 8s 5l C ^ a 2 1L2 3Jk 2 ~59\nT 5k P = qK 0 1sO 5 3HO 1sO 8r 8s 5l C ^ a 2 1L2 3Jj 2 ~59\nT 5k P = qL 0 1sO 5 3HP 1sO 8r 8s 5l C ^ a 2 1L2 3Ji 2 ~59\nT 5k P = qM 0 1sO 5 3HQ 1sO 8r 8s 5l C ^ a 2 1L2 3Jh 2 ~59\nT 5k P = qN 0 1sO 5 3HR 1sO 8r 8s 5l C ^ a 2 1L2 3Jg 2 ~59\nT 5k P = qO 0 1sO 5 3HS 1sO 8r 8s 5l C ^ a 2 1L2 3Jf 2 ~59\nT 5k P = qP 0 1sO 5 3HT 1sO 8r 8s 5l C ^ a 2 1L2 3Je 2 ~59\nT 5k P = qR 0 ra 5 3HU ra 8r 8s 5l C ^ a 2 1L2 3Jd 2 ~59\nT 5k P = qS 0 3cB 5 3HV 3cB 8r 8s 5l C ^ a 3 1KX 3Jb 1L2 3Jc 2 ~59\nT 5k P = qT 0 3cB 5 3HW 3cB 8r 8s 5l C ^ a 3 1L6 3J9 1L2 3Ja 2 ~59\nT 5k P = qV 0 17G 5 3HX 17G 8r 8s 5l C ^ a 3 1KX 3J7 1L2 3J8 2 ~59\nT 5k P = qW 0 17G 5 3HY 17G 8r 8s 5l C ^ a 3 1KX 3J5 1L2 3J6 2 ~59\nT 5k P = qX 0 3Hv 5 3HZ 3Hv 8r 8s 5l C ^ a 2 1L2 3J4 2 ~59\nT 5k P = qY 0 152 5 3I0 152 8r 8s 5l C ^ a 3 1KX 3J2 1L2 3J3 2 ~59\nT 5k P = qZ 0 3HM 6 3I1 3HM 1sO 8r 8s 5l C ^ a 2 1L2 3J1 2 ~59\nT 5k P = r0 0 3HM 6 3I2 3HM 1sO 8r 8s 5l C ^ a 2 1L2 3J0 2 ~59\nT 5k P = r1 0 3HM 6 3I3 3HM 1sO 8r 8s 5l C ^ a 2 1L2 3IZ 2 ~59\nT 5k P = r2 0 3HM 6 3I4 3HM 1sO 8r 8s 5l C ^ a 2 1L2 3IY 2 ~59\nT 5k P = r3 0 3HU 6 3I5 3HU ra 8r 8s 5l C ^ a 2 1L2 3IX 2 ~59\nT 5k P = r4 0 3I0 6 3I6 3I0 152 8r 8s 5l C ^ a 9 1KX 3IP 1L6 3IQ 1L2 3IR 1SI 3IS pT 3IT 1Rr 3IU 1Rs 3IV 2Bw 3IW 2 ~59\nT 5k P = r5 0 3I0 6 3I7 3I0 152 8r 8s 5l C ^ a 9 1KX 3IH 1L6 3II 1L2 3IJ 1SI 3IK pT 3IL 1Rr 3IM 1Rs 3IN 2Bw 3IO 2 ~59\nT 5k P = r6 0 3I0 6 3I8 3I0 152 8r 8s 5l C ^ a 9 1KX 3Iz 1L6 3IA 1L2 3IB 1SI 3IC pT 3ID 1Rr 3IE 1Rs 3IF 2Bw 3IG 2 ~59\nT 5k P = r7 1 3Hn 5 3I9 3Hn 8r 8s 5l C ^ a 3 1LQ ~59 1M0 3Iy 2 ~7d o 1 2 ~7d\nO 3Is C t 2Bx a 2 11W ~59 2lc ~59\nO 3Is C t 2Bx a 2 11W ~59 2lc ~59\nO 3Il C t 2Bx a 4 2By ~59 2Bz ~59 2BA ~7d 2BB ~8O\nO 3Il C t 2Bx a 4 2By ~59 2Bz ~59 2BA ~7d 2BB ~8O\nO 3Il C t 2Bx a 4 2By ~59 2Bz ~59 2BA ~7d 2BB ~8O\nO 3Ig C t 2Bx\nT 5k P = et 1 5l 2 3Ig 5l C ^ a 6 1LQ ~59 2 ~59 1KY 3Ih 10T 3Ii 1L3 3Ij 1M0 3Ik\nO 9I C ^\nO 9I C ^\nO 6l D ^ I k ~9J\nO 6l D ^ I k ~7d\nT 5k P = es 1 5l 2 3Il 5l C ^ a 9 1LQ ~59 2 ~59 2BC ~5j 1L2 3Im 2BD 3In 1KY 3Io 10T 3Ip 1L3 3Iq 1M0 3Ir\nO 9I C ^ o 1 1NE ~bb\nO 9I C q eq es 2BE\nO 9I C ^\nO 9I C ^\nO 6l D ^ I k ~9J\nO 6l D ^ I k ~7d\nT 5k P = er 1 5l 2 3Is 5l C ^ a 7 1LQ ~59 1L2 3It 1KY 3Iu 10T 3Iv 1L3 3Iw 1M0 3Ix 2 ~7d o 1 2 ~7d\nO 9I C ^\nO 9I C ^\nO 9I C ^ o 1 1NE ~bb\nO 6l D ^ I k ~9J\nO 6l D ^ I k ~7d\nO 6l D ^\nO 7c C b S 3I8 o 1 1LQ ~7d\nO 6R C d D ^\nO 6R C d D ^\nO 6v D ^ o 1 2 ~59\nO 6v D ^ o 1 2 ~59\nO 6v D ^ o 1 2 ~59\nO 6v D ^ o 1 2 ~59\nO 6v D ^ o 1 2 ~59\nO 7c C b S 3I7 o 1 1LQ ~7d\nO 6R C d D ^\nO 6R C d D ^\nO 6v D ^ o 1 2 ~59\nO 6v D ^ o 1 2 ~59\nO 6v D ^ o 1 2 ~59\nO 6v D ^ o 1 2 ~59\nO 6v D ^ o 1 2 ~59\nO 7c C b S 3I6 o 1 1LQ ~7d\nO 6R C d D ^\nO 6R C d D ^\nO 6v D ^ o 1 2 ~59\nO 6v D ^ o 1 2 ~59\nO 6v D ^ o 1 2 ~59\nO 6v D ^ o 1 2 ~59\nO 6v D ^ o 1 2 ~59\nO 6R C d D ^\nO 6R C d D ^\nO 6R C d D ^\nO 6R C d D ^\nO 6R C d D ^\nO 7c C b S 3I0 o 1 1LQ ~7d\nO 6R C d D ^\nO 6R C d D ^\nO 7c C b S 3HY o 1 1LQ ~7d\nO 6R C d D ^\nO 7c C b S 3HX o 1 1LQ ~7d\nO 6R C d D ^\nO 6R C d D ^\nO 6R C d D ^\nO 7c C b S 3HV o 1 1LQ ~7d\nO 6R C d D ^\nO 6R C d D ^\nO 6R C d D ^\nO 6R C d D ^\nO 6R C d D ^\nO 6R C d D ^\nO 6R C d D ^\nO 6R C d D ^\nO 6R C d D ^\nO 6R C d D ^\nO 6R C d D ^\nO 7c C b S 3HK o 1 1LQ ~7d\nO 6R C d D ^\nO 7c C b S 3HJ o 1 1LQ ~7d\nO 6R C d D ^\nO 7c C b S 3HI o 1 1LQ ~7d\nO 6R C d D ^\nO 7c C b S 3HH o 1 1LQ ~7d\nO 6R C d D ^\nO 7c C b S 3HG o 1 1LQ ~7d\nO 6R C d D ^\nO 7c C b S 3HF o 1 1LQ ~7d\nO 6R C d D ^\nO 7c C b S 3HE o 1 1LQ ~7d\nO 6R C d D ^\nO 7c C b S 3HD o 1 1LQ ~7d\nO 6R C d D ^\nO 7c C b S 3HC o 1 1LQ ~7d\nO 6R C d D ^\nO 7c C b S 3HB o 1 1LQ ~7d\nO 6R C d D ^\nO 7c C b S 3HA o 1 1LQ ~7d\nO 6R C d D ^\nO 7c C b S 3Hz o 1 1LQ ~7d\nO 6R C d D ^\nO 6R C d D ^\nO 6v D ^ o 1 2 ~59\nO 7c C b S 3Hx o 1 1LQ ~7d\nO 6R C d D ^\nO 7c C b S 3Hw o 1 1LQ ~7d\nO 6R C d D ^\nO 6R C d D ^\nO 6R C d D ^\nO 6v D ^ o 1 2 ~59\nO 7c C b S 3Hu o 1 1LQ ~7d\nO 6R C d D ^\nO 7c C b S 3Ht o 1 1LQ ~7d\nO 6R C d D ^\nO 7c C b S 3Hs o 1 1LQ ~7d\nO 6R C d D ^\nO 7c C b S 3Hr o 1 1LQ ~7d\nO 6R C d D ^\nO 6R C d D ^\nO 6v D ^ o 1 2 ~59\nO 7c C b S 3Hp o 1 1LQ ~7d\nO 6R C d D ^\nO 7c C b S 3Ho o 1 1LQ ~7d\nO 6R C d D ^\nO 7c C b S 3Hn o 1 1LQ ~7d\nO 6R C d D ^\nO 6R C d D ^\nO 72 C d D ^ Y 7c\nO 6G C d D ^ o 2 2 ~7d 1L4 ~7d\nO 6G C d D ^ o 2 2 ~7d 1L4 ~7d\nO 6G C d D ^ o 2 2 ~7d 1L4 ~7d\nO 6v D ^ o 1 2 ~59\nO 6v D ^ o 1 2 ~59\nO 7c C b S 3Hm o 1 1LQ ~7d\nO 6R C d D ^\nO 6R C d D ^\nO 6R C d D ^\nO 6G C d D ^ o 1 1L4 ~7d\nO 6G C d D ^ o 1 1L4 ~7d\nO 7c C b S 3Hl o 1 1LQ ~7d\nO 6R C d D ^\nO 6R C d D ^\nO 6R C d D ^\nO 6R C d D ^\nO 6v D ^ o 1 2 ~59\nO 6v D ^ o 1 2 ~59\nO 6v D ^ o 1 2 ~59\nO 7c C b S 3Hk o 1 1LQ ~7d\nO 6R C d D ^\nO 6R C d D ^\nO 6R C d D ^\nO 6R C d D ^\nO 6R C d D ^\nO 6R C d D ^\nO 6R C d D ^\nO 6R C d D ^\nO 6G C d D ^ o 1 1L4 ~7d\nO 6G C d D ^ o 1 1L4 ~7d\nO 6v D ^\nO 6v D ^\nO 6v D ^\nO 7c C b S 3Hj o 1 1LQ ~7d\nO 6R C d D ^\nO 6R C d D ^\nO 6R C d D ^\nO 6G C d D ^ o 1 1L4 ~7d\nO 6G C d D ^ o 1 1L4 ~7d\nO 6G C d D ^ o 1 1L4 ~7d\nO 7c C b S 3Hi o 1 1LQ ~7d\nO 6R C d D ^\nO 6R C d D ^\nO 6R C d D ^\nO 6R C d D ^\nO 6R C d D ^\nO 6R C d D ^\nO 6R C d D ^\nO 6R C d D ^\nO 6R C d D ^\nO 6R C d D ^\nO 6R C d D ^\nO 6R C d D ^\nO 6R C d D ^\nO 6R C d D ^\nO 6G C d D ^ o 1 1L4 ~7d\nO 6G C d D ^ o 2 2 ~7d 1L4 ~7d\nO 6G C d D ^ o 1 1L4 ~7d\nO 6G C d D ^ o 1 1L4 ~7d\nO 6v D ^\nO 6v D ^\nO 6v D ^\nO 7c C b S 3Hh o 1 1LQ ~7d\nO 6R C d D ^\nO 6R C d D ^\nO 6R C d D ^\nO 6G C d D ^ o 1 1L4 ~7d\nO 7c C b S 3Hg o 1 1LQ ~7d\nO 6R C d D ^\nO 6R C d D ^\nO 6R C d D ^\nO 6G C d D ^ o 1 1L4 ~7d\nO 7c C b S 3Hf o 1 1LQ ~7d\nO 6R C d D ^\nO 6R C d D ^\nO 6R C d D ^\nO 6G C d D ^ o 1 1L4 ~7d\nO 72 C d D ^ Y 7c\nO 7c C b S 3He o 1 1LQ ~7d\nO 6R C d D ^\nO 6R C d D ^\nO 6R C d D ^\nO 6R C d D ^\nO 6R C d D ^\nO 6R C d D ^\nO 6R C d D ^\nO 6R C d D ^\nO 6R C d D ^\nO 6R C d D ^\nO 6R C d D ^\nO 6R C d D ^\nO 6R C d D ^\nO 6R C d D ^\nO 6R C d D ^\nO 6R C d D ^\nO 6R C d D ^\nO 6R C d D ^\nO 6R C d D ^\nO 6R C d D ^\nO 6R C d D ^\nO 6R C d D ^\nO 6R C d D ^\nO 6G C d D ^ o 1 1L4 ~7d\nO 6G C d D ^\nO 6G C d D ^\nO 6G C d D ^\nO 6G C d D ^\nO 6G C d D ^ o 1 1L4 ~7d\nO 6G C d D ^\nO 6G C d D ^\nO 6G C d D ^\nO 6G C d D ^ o 1 1L4 ~7d\nO 6G C d D ^\nO 6G C d D ^ o 1 1L4 ~7d\nO 6G C d D ^\nO 6G C d D ^\nO 6G C d D ^ o 1 1L4 ~7d\nO 72 C d D ^ Y 7c o 1 1L4 ~59\nO 6G C d D ^\nO 6G C d D ^ o 1 1L4 ~7d\nO 6G C d D ^\nO 6G C d D ^ o 1 1L4 ~7d\nO 6G C d D ^ o 1 1L4 ~7d\nO 6G C d D ^ o 1 1L4 ~7d\nO 6G C d D ^ o 1 1L4 ~7d\nO 6G C d D ^ o 1 1L4 ~7d\nO 6G C d D ^ o 1 1L4 ~7d\nO 6G C d D ^ o 1 1L4 ~7d\nO 6G C d D ^ o 1 1L4 ~7d\nO 6G C d D ^\nO 6G C d D ^\nO 6G C d D ^ o 1 1L4 ~7d\nO 6G C d D ^\nO bz C t 1NP F 3MI\nO 6G C d D ^\nO 6G C d D ^\nO 6G C d D ^\nO 6G C d D ^\nO 6G C d D ^\nO 6G C d D ^\nO 6G C d D ^\nO 6G C d D ^ o 1 1L4 ~7d\nO 6G C d D ^ o 1 1L4 ~7d\nO 6G C d D ^\nO 6G C d D ^\nO 6G C d D ^\nO 6G C d D ^\nO 6G C d D ^\nO 6G C d D ^\nO 6G C d D ^ o 1 1L4 ~7d\nO 6G C d D ^\nO 6G C d D ^ o 1 1L4 ~7d\nO 6G C d D ^ o 1 1L4 ~7d\nO 6G C d D ^\nO 6G C d D ^ o 1 1L4 ~7d\nO 6G C d D ^\nO 7c C q pA pG 1LN S ~7d o 1 1LQ ~7d\nO 7c C b S 3Hd o 1 1LQ ~7d\nO 6R C d D ^\nO 6R C d D ^\nO 6R C d D ^\nO 6R C d D ^\nO 6R C d D ^\nO 6R C d D ^\nO 6R C d D ^\nO 6R C d D ^\nO 6R C d D ^\nO 6R C d D ^\nO 6R C d D ^\nO 6R C d D ^\nO 6R C d D ^\nO 6R C d D ^\nO 6G C d D ^\nO 6G C d D ^\nO 6G C d D ^\nO 6G C d D ^\nO 6G C d D ^\nO 6G C d D ^\nO 6G C d D ^ o 2 2 ~7d 1L4 ~7d\nO 6G C d D ^ o 2 2 ~7d 1L4 ~7d\nO 6l D ^\nO 6l D ^\nO 6l D ^\nO 6l D ^\nO 6l D ^\nO 6l D ^\nO 6l D ^\nO 6l D ^\nO 6l D ^\nO 6l D ^\nO 6l D ^\nO 6l D ^\nO kA a 2 11W ~59 NL ~59\nO 8N a 9 11W ~59 1M1 3Ni 1M2 ~59 1M3 ~7d 1M4 ~7d 1M5 ~8O 1M6 ~8P 1M7 ~59 1M8 ~8P\nO 7c C ^ S 3\nO 7c C ^ S 3\nO 8N a 9 11W ~59 1M1 5a 1M2 ~59 1M3 ~7d 1M4 ~7d 1M5 ~8O 1M6 ~8P 1M7 ~7d 1M8 ~8P o 1 1M9 ~7d\nO 7c C ^ S V\nO 7c C ^ S V\nO 7c C ^ S V\nO 7c C ^ S V\nO 7c C ^ S V\nO 7c C ^ S V\nO 7c C ^ S V\nO 7c C ^ S V\nT 5k P = 5b 1 152 5 3Nv 152 8r 8s 5l C ^ a 3 1LQ ~59 1M0 3Ny 2 ~7d o 1 2 ~7d\nT 5k P = oS 1 8r 4 3Nw 8r 8s 5l C ^ a 3 1LQ ~59 1M0 3Nx 2 ~7d o 1 2 ~7d\nO 6l D ^\nO 6l D ^\nO kA a 2 11W ~59 NL ~59\nO 8N a 9 11W ~59 1M1 3Nz 1M2 ~59 1M3 ~7d 1M4 ~7d 1M5 ~8O 1M6 ~8P 1M7 ~59 1M8 ~8P\nT 5k P = ox 1 8r 4 3NB 8r 8s 5l C ^ a 3 1LQ ~59 2 ~59 1M0 3OK\nT 5k P = oy 1 5l 2 3NC 5l C ^ a M 1LQ ~59 2 ~59 1L2 3O0 2BF 3O1 1Qq 3O2 2BG 3O3 2BH 3O4 2BI 3O5 2BJ 3O6 2BK 3O7 2BL 3O8 2BM 3O9 2BN 3Oa 2BO 3Ob 2BP 3Oc 2BQ 3Od 2BR 3Oe 2BS 3Of 2BT 3Og 2BU 3Oh 2BV 3Oi 2BW 3Oj 2BX 3Ok 2BY 3Ol oz 3Om 2BZ 3On 2C0 3Oo 2C1 3Op 2C2 3Oq 2C3 3Or 2C4 3Os 2C5 3Ot 2C6 3Ou 2C7 3Ov 2C8 3Ow 2C9 3Ox 2Ca 3Oy 2Cb 3Oz 2Cc 3OA 2Cd 3OB 2Ce 3OC 2Cf 3OD 1pJ 3OE 2Cg 3OF 2Ch 3OG 2Ci 3OH 1L3 3OI 1M0 3OJ\nO 9I C ^ o 1 2 ~59\nT 5k P = oA 1 5l 2 3NE 5l C ^ a f 1LQ ~59 2 ~59 pp ~5j 2Cj ~9J 2Ck ~8O 1L2 3NP 2Cl 3NQ 2Cm 3NR Jd 3NS Je 3NT 2Cn 3NU 2Co 3NV 1L6 3NW 1L3 3NX 1M0 3NY\nO 9I C ^ o 1 2 ~59\nO 9I C ^ o 1 2 ~59\nT 5k P = oD 1 3NC 3 3NH 3NC 5l C ^ a 6 1LQ ~59 2BQ 3NL 2BR 3NM 2BS 3NN 2BT 3NO 2 ~7d o 1 2 ~7d\nO 9I C ^\nO 9I C ^\nO 9I C ^\nO 9I C ^\nO 9I C ^\nO 9I C ^\nO 9I C ^\nO 9I C ^ o 1 1NE ~bb\nO bz C ^ F 3NZ a 5 1LQ ~59 1 ~59 1MO ~59 2 ~7d RL ~9J\nO 9I C ^ o 1 2 ~59\nO 9I C ^ o 1 2 ~59\nO 9I C ^ o 1 2 ~59\nO 9I C ^ o 2 1NE ~bb 2 ~59\nO 9I C ^ o 1 2 ~59\nO 9I C ^ o 1 2 ~59\nO 6l D ^\nO 6l D ^\nO 9I C q oq oA 2Cl\nO 9I C ^ o 1 1NE ~bb\nO 9I C ^ o 1 2 ~59\nO 9I C ^ o 1 2 ~59\nO 9I C ^ o 1 2 ~59\nO 9I C ^ o 1 2 ~59\nO 9I C ^ o 1 2 ~59\nO 9I C ^ o 1 2 ~59\nO 9I C ^ o 1 2 ~59\nO 9I C ^ o 1 2 ~59\nO 9I C ^ o 1 2 ~59\nO 9I C ^ o 1 2 ~59\nO 9I C ^ o 1 2 ~59\nO 9I C ^ o 1 2 ~59\nO 9I C ^ o 1 2 ~59\nO 9I C ^ o 1 2 ~59\nO 9I C ^ o 1 2 ~59\nO 9I C ^ o 1 2 ~59\nO 9I C ^ o 2 1NE ~bb 2 ~59\nO 9I C ^ o 2 1NE ~bb 2 ~59\nO 9I C ^ o 1 2 ~59\nO 9I C ^ o 1 2 ~59\nO 9I C ^ o 1 2 ~59\nO 9I C ^ o 2 1NE ~bb 2 ~59\nO 9I C ^ o 1 2 ~59\nO 9I C ^ o 1 2 ~59\nO 9I C ^ o 1 2 ~59\nO 9I C ^ o 2 1NE ~bb 2 ~59\nO 9I C ^ o 1 2 ~59\nO 9I C ^ o 1 2 ~59\nO 9I C ^ o 1 2 ~59\nO 9I C ^ o 1 2 ~59\nO 9I C ^ o 1 2 ~59\nO 9I C ^ o 1 2 ~59\nO 9I C ^ o 1 2 ~59\nO 9I C ^ o 1 2 ~59\nO 9I C ^ o 1 2 ~59\nO 9I C ^ o 1 2 ~59\nO 9I C ^ o 1 2 ~59\nO 9I C ^ o 1 2 ~59\nO 9I C ^ o 2 1NE ~bb 2 ~59\nO 9I C ^ o 2 1NE ~bb 2 ~59\nO 9I C ^ o 2 1NE ~bb 2 ~59\nO 9I C ^ o 1 2 ~59\nO 9I C ^ o 1 2 ~59\nO 6l D ^\nO 6l D ^\nO 6l D ^\nO kA a 2 11W ~59 NL ~59\nO 8N a 9 11W ~59 1M1 3OL 1M2 ~59 1M3 ~7d 1M4 ~7d 1M5 ~8O 1M6 ~8P 1M7 ~59 1M8 ~8P\nO 9I C ^\nO 9I C ^ o 2 1NE ~bb 2 ~59\nO 9I C ^ o 1 2 ~59\nO 9I C ^ o 1 2 ~59\nO 9I C ^ o 1 2 ~59\nO 9I C ^ o 1 2 ~59\nO 9I C ^\nO 9I C ^ o 1 1NE ~bb\nO 9I C ^ o 1 2 ~59\nO 9I C ^ o 2 1NE ~bb 2 ~59\nO 9I C ^ o 1 2 ~59\nO 9I C ^ o 2 1NE ~bb 2 ~59\nO 9I C ^ o 1 2 ~59\nO 9I C ^ o 2 1NE ~bb 2 ~59\nO 9I C ^ o 1 1NE ~bb\nO 9I C ^ o 2 2 ~59 1Nr ~9J\nO 9I C ^ o 2 2 ~59 1Nr ~9J\nO 9I C ^ o 2 1NE ~bb 2 ~59\nO 9I C ^ o 1 2 ~59\nO 9I C ^ o 1 2 ~59\nO 9I C ^ o 1 2 ~59\nO 9I C ^\nO 9I C ^ o 1 2 ~59\nO 9I C ^ o 1 2 ~59\nO 9I C ^\nO 8N a 9 11W ~59 1M1 5a 1M2 ~59 1M3 ~7d 1M4 ~7d 1M5 ~8O 1M6 ~8P 1M7 ~7d 1M8 ~8P o 1 1M9 ~7d\nO 7c C ^ S S o 1 1L4 ~7d\nO 7c C ^ S S o 1 1L4 ~7d\nO 7c C ^ S S o 1 1L4 ~7d\nO 7c C ^ S S o 1 1L4 ~7d\nO 7c C ^ S S o 1 1L4 ~7d\nO kA a 2 11W ~59 NL ~59\nO 8N a 9 11W ~59 1M1 3Pi 1M2 ~59 1M3 ~7d 1M4 ~7d 1M5 ~8O 1M6 ~8P 1M7 ~59 1M8 ~8P\nT 5k P 2Cp G 1 5l 2 3Pk 5l C o R a c 1KX 3UD 1KZ 3UE 1L0 3UF 1L1 3UG 1L2 3UH 1MS 3UI 1L3 3UJ 2 ~7d 1LQ ~59 1Xk ~bb 1Xp ~bb 27P ~bb o 1 2 ~7d\nT 5k P = K 1 3Pk 3 3Pl 3Pk 5l C o R a 6 1Xk ~bb 1Xp ~bb 1LQ ~59 2 ~59 1M0 3UC 27P ~bb\nT 5k P = L 1 3Pl 4 3Pm 3Pl 3Pk 5l C o R a 4 1Xk ~bb 1Xp ~bb 1LQ ~59 2 ~59\nT 5k P = M 1 3Pl 4 3Pn 3Pl 3Pk 5l C o R a 4 1Xk ~bb 1Xp ~bb 1LQ ~59 2 ~59\nT 5k P = N 1 3Pl 4 3Po 3Pl 3Pk 5l C o R a 4 1Xk ~bb 1Xp ~bb 1LQ ~59 2 ~59\nT 5k P = O 1 3Pl 4 3Pp 3Pl 3Pk 5l C o R a 4 1Xk ~bb 1Xp ~bb 1LQ ~59 2 ~59\nT 5k P = P 1 3Pk 3 3Pq 3Pk 5l C o R a 8 1Xk ~bb 1Xp ~bb 1LQ ~59 2 ~59 1M0 3UB 27P ~bb 1RK ~7d 2wh ~7d\nT 5k P = Q 1 3Pq 4 3Pr 3Pq 3Pk 5l C o R a 6 1Xk ~bb 1Xp ~bb 1LQ ~59 2 ~59 2Cq ~7d 2Cr ~7d\nT 5k P = R 1 3Pq 4 3Ps 3Pq 3Pk 5l C o R a 6 1Xk ~bb 1Xp ~bb 1LQ ~59 2 ~59 2Cq ~7d 2Cr ~7d\nT 5k P = S 1 3Pq 4 3Pt 3Pq 3Pk 5l C o R a 4 1Xk ~bb 1Xp ~bb 1LQ ~59 2 ~59\nT 5k P = T 1 3Pq 4 3Pu 3Pq 3Pk 5l C o R a 5 1Xk ~bb 1Xp ~bb 1LQ ~59 2 ~59 1TK ~7d\nT 5k P = U 1 3Pq 4 3Pv 3Pq 3Pk 5l C o R a 4 1Xk ~bb 1Xp ~bb 1LQ ~59 2 ~59\nT 5k P = V 1 3Pq 4 3Pw 3Pq 3Pk 5l C o R a 5 1Xk ~bb 1Xp ~bb 1LQ ~59 2 ~59 2Cr ~7d\nT 5k P = W 1 3Pq 4 3Px 3Pq 3Pk 5l C o R a 4 1Xk ~bb 1Xp ~bb 1LQ ~59 2 ~59\nT 5k P = X 1 3Pq 4 3Py 3Pq 3Pk 5l C o R a 5 1Xk ~bb 1Xp ~bb 1LQ ~59 2 ~59 1TK ~7d\nT 5k P = Y 1 3Pq 4 3Pz 3Pq 3Pk 5l C o R a 5 1Xk ~bb 1Xp ~bb 1LQ ~59 2 ~59 2Cr ~7d\nT 5k P = Z 1 3Pq 4 3PA 3Pq 3Pk 5l C o R a 5 1Xk ~bb 1Xp ~bb 1LQ ~59 2 ~59 2Cr ~7d\nT 5k P = 10 1 3Pq 4 3PB 3Pq 3Pk 5l C o R a 4 1Xk ~bb 1Xp ~bb 1LQ ~59 2 ~59\nT 5k P = 11 1 3Pq 4 3PC 3Pq 3Pk 5l C o R a 4 1Xk ~bb 1Xp ~bb 1LQ ~59 2 ~59\nT 5k P = 12 1 3Pq 4 3PD 3Pq 3Pk 5l C o R a 5 1Xk ~bb 1Xp ~bb 1LQ ~59 2 ~59 2Cr ~7d\nT 5k P = 13 1 3Pq 4 3PE 3Pq 3Pk 5l C o R a 5 1Xk ~bb 1Xp ~bb 1LQ ~59 2 ~59 2Cr ~7d\nT 5k P = 14 1 3Pq 4 3PF 3Pq 3Pk 5l C o R a 4 1Xk ~bb 1Xp ~bb 1LQ ~59 2 ~59\nT 5k P = 15 1 3Pq 4 3PG 3Pq 3Pk 5l C o R a 6 1Xk ~bb 1Xp ~bb 1LQ ~59 2 ~59 2Cs ~7d 2Ct ~7d\nT 5k P = 16 1 3Pq 4 3PH 3Pq 3Pk 5l C o R a 4 1Xk ~bb 1Xp ~bb 1LQ ~59 2 ~59\nT 5k P = 17 1 3Pq 4 3PI 3Pq 3Pk 5l C o R a 4 1Xk ~bb 1Xp ~bb 1LQ ~59 2 ~59\nT 5k P = 18 1 3Pq 4 3PJ 3Pq 3Pk 5l C o R a 5 1Xk ~bb 1Xp ~bb 1LQ ~59 2 ~59 1Oi ~7d\nT 5k P = 19 1 3Pq 4 3PK 3Pq 3Pk 5l C o R a 4 1Xk ~bb 1Xp ~bb 1LQ ~59 2 ~59\nT 5k P = 1a 1 3Pq 4 3PL 3Pq 3Pk 5l C o R a 6 1Xk ~bb 1Xp ~bb 1LQ ~59 2 ~59 1KW ~7d 2a9 ~7d\nT 5k P = 1b 1 3Pq 4 3PM 3Pq 3Pk 5l C o R a 4 1Xk ~bb 1Xp ~bb 1LQ ~59 2 ~59\nT 5k P = 1c 1 3Pq 4 3PN 3Pq 3Pk 5l C o R a 4 1Xk ~bb 1Xp ~bb 1LQ ~59 2 ~59\nT 5k P = 1d 1 3Pq 4 3PO 3Pq 3Pk 5l C o R a 4 1Xk ~bb 1Xp ~bb 1LQ ~59 2 ~59\nT 5k P = 1e 1 3Pq 4 3PP 3Pq 3Pk 5l C o R a 4 1Xk ~bb 1Xp ~bb 1LQ ~59 2 ~59\nT 5k P = 1f 1 3Pq 4 3PQ 3Pq 3Pk 5l C o R a 4 1Xk ~bb 1Xp ~bb 1LQ ~59 2 ~59\nT 5k P = 1g 1 3Pq 4 3PR 3Pq 3Pk 5l C o R a 4 1Xk ~bb 1Xp ~bb 1LQ ~59 2 ~59\nT 5k P = 1h 1 3Pk 3 3PS 3Pk 5l C o R a 8 1Xk ~bb 1Xp ~bb 1LQ ~59 2 ~59 1M0 3UA 27P ~bb 1RK ~7d 2wh ~7d\nT 5k P = 1i 1 3PS 4 3PT 3PS 3Pk 5l C o R a 4 1Xk ~bb 1Xp ~bb 1LQ ~59 2 ~59\nT 5k P = 1j 1 3PS 4 3PU 3PS 3Pk 5l C o R a 4 1Xk ~bb 1Xp ~bb 1LQ ~59 2 ~59\nT 5k P = 1k 1 3PS 4 3PV 3PS 3Pk 5l C o R a 4 1Xk ~bb 1Xp ~bb 1LQ ~59 2 ~59\nT 5k P = 1l 1 3PS 4 3PW 3PS 3Pk 5l C o R a 4 1Xk ~bb 1Xp ~bb 1LQ ~59 2 ~59\nT 5k P = 1m 1 3PS 4 3PX 3PS 3Pk 5l C o R a 4 1Xk ~bb 1Xp ~bb 1LQ ~59 2 ~59\nT 5k P = 1n 1 3PS 4 3PY 3PS 3Pk 5l C o R a 4 1Xk ~bb 1Xp ~bb 1LQ ~59 2 ~59\nT 5k P = 1o 1 3PS 4 3PZ 3PS 3Pk 5l C o R a 4 1Xk ~bb 1Xp ~bb 1LQ ~59 2 ~59\nT 5k P = 1p 1 3PS 4 3Q0 3PS 3Pk 5l C o R a 4 1Xk ~bb 1Xp ~bb 1LQ ~59 2 ~59\nT 5k P = 1q 1 3PS 4 3Q1 3PS 3Pk 5l C o R a 4 1Xk ~bb 1Xp ~bb 1LQ ~59 2 ~59\nT 5k P = 1r 1 3PS 4 3Q2 3PS 3Pk 5l C o R a 4 1Xk ~bb 1Xp ~bb 1LQ ~59 2 ~59\nT 5k P = 1s 1 3PS 4 3Q3 3PS 3Pk 5l C o R a 4 1Xk ~bb 1Xp ~bb 1LQ ~59 2 ~59\nT 5k P = 1t 1 3PS 4 3Q4 3PS 3Pk 5l C o R a 4 1Xk ~bb 1Xp ~bb 1LQ ~59 2 ~59\nT 5k P = 1u 1 3PS 4 3Q5 3PS 3Pk 5l C o R a 4 1Xk ~bb 1Xp ~bb 1LQ ~59 2 ~59\nT 5k P = 1v 1 3PS 4 3Q6 3PS 3Pk 5l C o R a 5 1Xk ~bb 1Xp ~bb 1LQ ~59 2 ~59 1TK ~7d\nT 5k P = 1w 1 3PS 4 3Q7 3PS 3Pk 5l C o R a 4 1Xk ~bb 1Xp ~bb 1LQ ~59 2 ~59\nT 5k P = 1x 1 3PS 4 3Q8 3PS 3Pk 5l C o R a 4 1Xk ~bb 1Xp ~bb 1LQ ~59 2 ~59\nT 5k P = 1y 1 3PS 4 3Q9 3PS 3Pk 5l C o R a 4 1Xk ~bb 1Xp ~bb 1LQ ~59 2 ~59\nT 5k P = 1z 1 3PS 4 3Qa 3PS 3Pk 5l C o R a 5 1Xk ~bb 1Xp ~bb 1LQ ~59 2 ~59 2Cu ~7d\nT 5k P = 1A 1 3PS 4 3Qb 3PS 3Pk 5l C o R a 4 1Xk ~bb 1Xp ~bb 1LQ ~59 2 ~59\nT 5k P = 1B 1 3PS 4 3Qc 3PS 3Pk 5l C o R a 7 1Xk ~bb 1Xp ~bb 1LQ ~59 2 ~59 2qd ~7d 2Cv 3Uy 2Cw 3Uz\nT 5k P = 1C 1 3PS 4 3Qd 3PS 3Pk 5l C o R a 4 1Xk ~bb 1Xp ~bb 1LQ ~59 2 ~59\nT 5k P = 1D 1 3PS 4 3Qe 3PS 3Pk 5l C o R a 4 1Xk ~bb 1Xp ~bb 1LQ ~59 2 ~59\nT 5k P = 1E 1 3PS 4 3Qf 3PS 3Pk 5l C o R a 4 1Xk ~bb 1Xp ~bb 1LQ ~59 2 ~59\nT 5k P = 1F 1 3PS 4 3Qg 3PS 3Pk 5l C o R a 4 1Xk ~bb 1Xp ~bb 1LQ ~59 2 ~59\nT 5k P = 1G 1 3PS 4 3Qh 3PS 3Pk 5l C o R a 4 1Xk ~bb 1Xp ~bb 1LQ ~59 2 ~59\nT 5k P = 1H 1 3PS 4 3Qi 3PS 3Pk 5l C o R a 5 1Xk ~bb 1Xp ~bb 1LQ ~59 2 ~59 2Cx 3Ux\nT 5k P = 1I 1 3PS 4 3Qj 3PS 3Pk 5l C o R a 7 1Xk ~bb 1Xp ~bb 1LQ ~59 2 ~59 1Lj ~7d 1Lt ~7d 2Bq ~7d\nT 5k P = 1J 1 3Pk 3 3Qk 3Pk 5l C o R a 6 1Xk ~bb 1Xp ~bb 1LQ ~59 2 ~59 1M0 3Uw 27P ~bb\nT 5k P = 1K 1 3Qk 4 3Ql 3Qk 3Pk 5l C o R a 4 1Xk ~bb 1Xp ~bb 1LQ ~59 2 ~59\nT 5k P = 1L 1 3Qk 4 3Qm 3Qk 3Pk 5l C o R a 4 1Xk ~bb 1Xp ~bb 1LQ ~59 2 ~59\nT 5k P = 1M 1 3Qk 4 3Qn 3Qk 3Pk 5l C o R a 4 1Xk ~bb 1Xp ~bb 1LQ ~59 2 ~59\nT 5k P = 1N 1 3Pk 3 3Qo 3Pk 5l C o R a 6 1Xk ~bb 1Xp ~bb 1LQ ~59 2 ~59 1M0 3Uv 27P ~bb\nT 5k P = 1O 1 3Qo 4 3Qp 3Qo 3Pk 5l C o R a 4 1Xk ~bb 1Xp ~bb 1LQ ~59 2 ~59\nT 5k P = 1P 1 3Qo 4 3Qq 3Qo 3Pk 5l C o R a 4 1Xk ~bb 1Xp ~bb 1LQ ~59 2 ~59\nT 5k P = 1Q 1 3Pk 3 3Qr 3Pk 5l C o R a 6 1Xk ~bb 1Xp ~bb 1LQ ~59 2 ~59 1M0 3Uu 27P ~bb\nT 5k P = 1R 1 3Qr 4 3Qs 3Qr 3Pk 5l C o R a 4 1Xk ~bb 1Xp ~bb 1LQ ~59 2 ~59\nT 5k P = 1S 1 3Qr 4 3Qt 3Qr 3Pk 5l C o R a 4 1Xk ~bb 1Xp ~bb 1LQ ~59 2 ~59\nT 5k P = 1T 1 3Qr 4 3Qu 3Qr 3Pk 5l C o R a 4 1Xk ~bb 1Xp ~bb 1LQ ~59 2 ~59\nT 5k P = 1U 1 3Qr 4 3Qv 3Qr 3Pk 5l C o R a 4 1Xk ~bb 1Xp ~bb 1LQ ~59 2 ~59\nT 5k P = 1V 1 3Qr 4 3Qw 3Qr 3Pk 5l C o R a 4 1Xk ~bb 1Xp ~bb 1LQ ~59 2 ~59\nT 5k P = 1W 1 3Qr 4 3Qx 3Qr 3Pk 5l C o R a 4 1Xk ~bb 1Xp ~bb 1LQ ~59 2 ~59\nT 5k P = 1X 1 3Qr 4 3Qy 3Qr 3Pk 5l C o R a 4 1Xk ~bb 1Xp ~bb 1LQ ~59 2 ~59\nT 5k P = 1Y 1 3Qr 4 3Qz 3Qr 3Pk 5l C o R a 4 1Xk ~bb 1Xp ~bb 1LQ ~59 2 ~59\nT 5k P = 1Z 1 3Qr 4 3QA 3Qr 3Pk 5l C o R a 4 1Xk ~bb 1Xp ~bb 1LQ ~59 2 ~59\nT 5k P = 20 1 3Qr 4 3QB 3Qr 3Pk 5l C o R a 4 1Xk ~bb 1Xp ~bb 1LQ ~59 2 ~59\nT 5k P = 21 1 3Qr 4 3QC 3Qr 3Pk 5l C o R a 4 1Xk ~bb 1Xp ~bb 1LQ ~59 2 ~59\nT 5k P = 22 1 3Qr 4 3QD 3Qr 3Pk 5l C o R a 4 1Xk ~bb 1Xp ~bb 1LQ ~59 2 ~59\nT 5k P = 23 1 3Qr 4 3QE 3Qr 3Pk 5l C o R a 4 1Xk ~bb 1Xp ~bb 1LQ ~59 2 ~59\nT 5k P = 24 1 3Pk 3 3QF 3Pk 5l C o R a 6 1Xk ~bb 1Xp ~bb 1LQ ~59 2 ~59 1M0 3Ut 27P ~bb\nT 5k P = 25 1 3QF 4 3QG 3QF 3Pk 5l C o R a 4 1Xk ~bb 1Xp ~bb 1LQ ~59 2 ~59\nT 5k P = 26 1 3QF 4 3QH 3QF 3Pk 5l C o R a 4 1Xk ~bb 1Xp ~bb 1LQ ~59 2 ~59\nT 5k P = 27 1 3QF 4 3QI 3QF 3Pk 5l C o R a 4 1Xk ~bb 1Xp ~bb 1LQ ~59 2 ~59\nT 5k P = 28 1 3QF 4 3QJ 3QF 3Pk 5l C o R a 4 1Xk ~bb 1Xp ~bb 1LQ ~59 2 ~59\nT 5k P = 29 1 3Pk 3 3QK 3Pk 5l C o R a 6 1Xk ~bb 1Xp ~bb 1LQ ~59 2 ~59 1M0 3Us 27P ~bb\nT 5k P = 2a 1 3QK 4 3QL 3QK 3Pk 5l C o R a 4 1Xk ~bb 1Xp ~bb 1LQ ~59 2 ~59\nT 5k P = 2b 1 3QK 4 3QM 3QK 3Pk 5l C o R a 4 1Xk ~bb 1Xp ~bb 1LQ ~59 2 ~59\nT 5k P = 2c 1 3QK 4 3QN 3QK 3Pk 5l C o R a 4 1Xk ~bb 1Xp ~bb 1LQ ~59 2 ~59\nT 5k P = 2d 1 3QK 4 3QO 3QK 3Pk 5l C o R a 4 1Xk ~bb 1Xp ~bb 1LQ ~59 2 ~59\nT 5k P = 2e 1 3QK 4 3QP 3QK 3Pk 5l C o R a 4 1Xk ~bb 1Xp ~bb 1LQ ~59 2 ~59\nT 5k P = 2f 1 3QK 4 3QQ 3QK 3Pk 5l C o R a 4 1Xk ~bb 1Xp ~bb 1LQ ~59 2 ~59\nT 5k P = 2g 1 3QK 4 3QR 3QK 3Pk 5l C o R a 4 1Xk ~bb 1Xp ~bb 1LQ ~59 2 ~59\nT 5k P = 2h 1 3QK 4 3QS 3QK 3Pk 5l C o R a 4 1Xk ~bb 1Xp ~bb 1LQ ~59 2 ~59\nT 5k P = 2i 1 3QK 4 3QT 3QK 3Pk 5l C o R a 4 1Xk ~bb 1Xp ~bb 1LQ ~59 2 ~59\nT 5k P = 2j 1 3QK 4 3QU 3QK 3Pk 5l C o R a 4 1Xk ~bb 1Xp ~bb 1LQ ~59 2 ~59\nT 5k P = 2k 1 3Pk 3 3QV 3Pk 5l C o R a 6 1Xk ~bb 1Xp ~bb 1LQ ~59 2 ~59 1M0 3Ur 27P ~bb\nT 5k P = 2l 1 3Pk 3 3QW 3Pk 5l C o R a 8 1Xk ~bb 1Xp ~bb 1LQ ~59 2 ~59 1M0 3Uq 27P ~bb 1RK ~7d 2wh ~7d\nT 5k P = 2m 1 3QW 4 3QX 3QW 3Pk 5l C o R a 6 1Xk ~bb 1Xp ~bb 1LQ ~59 2 ~59 q1 ~7d 11W ~7d\nT 5k P = 2n 1 3Pk 3 3QY 3Pk 5l C o R a 8 1Xk ~bb 1Xp ~bb 1LQ ~59 2 ~59 1M0 3Up 27P ~bb 2Cy ~7d 2Cz ~7d\nT 5k P = 2o 1 3Pk 3 3QZ 3Pk 5l C o R a a 1Xk ~bb 1Xp ~bb 1LQ ~59 2 ~59 1M0 3Uo 27P ~bb 2qx ~7d 2Cr ~7d 1RK ~7d 2wh ~7d\nT 5k P = 2p 1 3Pk 3 3R0 3Pk 5l C o R a 9 1Xk ~bb 1Xp ~bb 1LQ ~59 2 ~59 1M0 3Un 27P ~bb 2o ~7d 1RK ~7d 2wh ~7d\nT 5k P = 2q 1 3Pk 3 3R1 3Pk 5l C o R a 9 1Xk ~bb 1Xp ~bb 1LQ ~59 2 ~59 1M0 3Um 27P ~bb 2CA ~7d 1RK ~7d 2wh ~7d\nT 5k P = 2r 1 3Pk 3 3R2 3Pk 5l C o R a 7 1Xk ~bb 1Xp ~bb 1LQ ~59 2 ~59 1M0 3Ul 27P ~bb 2CB ~7d\nT 5k P = 2s 1 3Pk 3 3R3 3Pk 5l C o R a 7 1Xk ~bb 1Xp ~bb 1LQ ~59 2 ~59 1M0 3Uk 27P ~bb 2CC ~7d\nT 5k P = 2t 1 3Pk 3 3R4 3Pk 5l C o R a 6 1Xk ~bb 1Xp ~bb 1LQ ~59 2 ~59 1M0 3Uj 27P ~bb\nT 5k P = 2u 1 3R4 4 3R5 3R4 3Pk 5l C o R a 4 1Xk ~bb 1Xp ~bb 1LQ ~59 2 ~59\nT 5k P = 2v 1 3R4 4 3R6 3R4 3Pk 5l C o R a 4 1Xk ~bb 1Xp ~bb 1LQ ~59 2 ~59\nT 5k P = 2w 1 3R4 4 3R7 3R4 3Pk 5l C o R a 4 1Xk ~bb 1Xp ~bb 1LQ ~59 2 ~59\nT 5k P = 2x 1 3R4 4 3R8 3R4 3Pk 5l C o R a 5 1Xk ~bb 1Xp ~bb 1LQ ~59 2 ~59 2CD ~7d\nT 5k P = 2y 1 3R4 4 3R9 3R4 3Pk 5l C o R a 4 1Xk ~bb 1Xp ~bb 1LQ ~59 2 ~59\nT 5k P = 2z 1 3R4 4 3Ra 3R4 3Pk 5l C o R a 5 1Xk ~bb 1Xp ~bb 1LQ ~59 2 ~59 11W ~7d\nT 5k P = 2A 1 3R4 4 3Rb 3R4 3Pk 5l C o R a 6 1Xk ~bb 1Xp ~bb 1LQ ~59 2 ~59 2t ~7d 11W ~7d\nT 5k P = 2B 1 3R4 4 3Rc 3R4 3Pk 5l C o R a 4 1Xk ~bb 1Xp ~bb 1LQ ~59 2 ~59\nT 5k P = 2C 1 3Pk 3 3Rd 3Pk 5l C o R a 6 1Xk ~bb 1Xp ~bb 1LQ ~59 2 ~59 1M0 3Ui 27P ~bb\nT 5k P = 2D 1 3Rd 4 3Re 3Rd 3Pk 5l C o R a 4 1Xk ~bb 1Xp ~bb 1LQ ~59 2 ~59\nO 9I C ^ o 3 1NE ~bb 2 ~59 1Nr ~9J\nO 9I C ^ o 3 1NE ~bb 2 ~59 1Nr ~9J\nO 9I C ^ o 1 2 ~59\nO 9I C ^ o 1 2 ~59\nO 9I C ^ o 2 1NE ~bb 2 ~59\nO 9I C ^ o 1 2 ~59\nO 9I C ^ o 1 2 ~59\nO 9I C ^ o 2 1NE ~bb 2 ~59\nO 9I C ^ o 1 2 ~59\nO 9I C ^ o 1 2 ~59\nO 9I C ^ o 2 2 ~59 1Nr ~9J\nO 9I C ^ o 1 2 ~59\nT 5k P = n6 1 2QW 3 3Rr 2QW 5l C ^ a 3 1LQ ~59 2 ~59 2qT 3Uh\nO 9I C ^ o 1 2 ~59\nO 9I C ^\nT 5k P = n9 1 5k 3 3Ru 5k 5l C ^ a 4 1LQ ~59 1L2 3Uf 1MF 3Ug 2 ~7d o 1 2 ~7d\nO 9I C ^\nT 3Ru P = nb 1 3Qc 5 3Rw 3Qc 3PS 3Pk 5l C ^ a 4 1LQ ~59 1Xk ~bb 1KX 3Ue 2 ~59\nT 3Ru P = nc 1 3Qc 5 3Rx 3Qc 3PS 3Pk 5l C ^ a 4 1LQ ~59 1Xk ~bb 1KX 3Ud 2 ~59\nT 3Ru P = nd 1 3Qc 5 3Ry 3Qc 3PS 3Pk 5l C ^ a 4 1LQ ~59 1Xk ~bb 1KX 3Uc 2 ~59\nT 3Ru P = ne 1 3Qc 5 3Rz 3Qc 3PS 3Pk 5l C ^ a 3 1LQ ~59 1KX 3Ub 2 ~59\nT 3Ru P = nf 1 3Qc 5 3RA 3Qc 3PS 3Pk 5l C ^ a 4 1LQ ~59 1Xk ~bb 1KX 3U9 2 ~59\nT 5k P = nj 1 3Pk 3 3RB 3Pk 5l C ^ a 3 1LQ ~59 2 ~59 1M0 3U8\nT 5k P = nk 1 3RB 4 3RC 3RB 3Pk 5l C ^ a 3 1LQ ~59 2 ~59 1KX 3U6\nT 5k P = nl 1 3RB 4 3RD 3RB 3Pk 5l C ^ a 3 1LQ ~59 2 ~59 1KX 3U4\nO 9I C ^ o 1 2 ~59\nO 9I C ^\nT 5k P = no 1 3Pl 4 3RG 3Pl 3Pk 5l C ^ a 2 1LQ ~59 2 ~59\nT 5k P = np 1 3Qk 4 3RH 3Qk 3Pk 5l C ^ a 2 1LQ ~59 2 ~59\nT 5k P = nq 1 3Qk 4 3RI 3Qk 3Pk 5l C ^ a 2 1LQ ~59 2 ~59\nT 5k P = nr 1 3Qk 4 3RJ 3Qk 3Pk 5l C ^ a 2 1LQ ~59 2 ~59\nT Gz P = nt 1 1qg 6 3RK 1qg 5j 1jm Fp 5l C ^ a x 1WF 5m 1WG ~8P 1WD GA 1WH ~8O 1WI ~9J 1WJ ~9J 1WK ~8O 1WL 5j 1WM 5n 1LQ ~59 2 ~59 pp 3Ts 1LM 6f 2CE 3Tt 18I 3Tu 2CF 3Tv 2CG 3Tw 2CH 3Tx 2CI 3Ty 2CJ 3Tz 2CK 3TA 2CL 3TB 2CM 3TC 2CN 3TD 2CO 3TE 2CP 3TF 2CQ 3TG 2CR 3TH 2CS 3TI 2CT 3TJ 1xQ 3TK 2CU 3TL 1KX GE\nT 5k P = nx 1 2QW 3 3RL 2QW 5l C ^ a 1L 1LQ ~59 2 ~59 1L2 3RO 2CV 3RP 2CW 3RQ 2CX 3RR 1vD 3RS 13o 3RT 2CY 3RU 2CZ 3RV 2D0 3RW 2D1 3RX 2D2 3RY 2D3 3RZ 2D4 3S0 2D5 3S1 2D6 3S2 1kI 3S3 2qS 3S4 2D7 3S5 2D8 3S6 2D9 3S7 2Da 3S8 2Db 3S9 2Dc 3Sa 2Dd 3Sb 2De 3Sc 2Df 3Sd 2Dg 3Se 2Dh 3Sf 2Di 3Sg 2Dj 3Sh 2Dk 3Si 2Dl 3Sj 2Dm 3Sk 2Dn 3Sl 2Do 3Sm 2Dp 3Sn 2Dq 3So 2Dr 3Sp 2Ds 3Sq 2Dt 3Sr 2Du 3Ss 2Dv 3St 2Dw 3Su 2qh 3Sv 2qf 3Sw 2qg 3Sx 2Dx 3Sy 2Dy 3Sz 2Dz 3SA 2DA 3SB 2DB 3SC 2DC 3SD 2DD 3SE 2DE 3SF 2DF 3SG 2DG 3SH 2DH 3SI 2DI 3SJ 2DJ 3SK 2DK 3SL 2DL 3SM 2DM 3SN 2qU 3SO 2DN 3SP 2DO 3SQ 2DP 3SR 2DQ 3SS 2DR 3ST 2DS 3SU 2DT 3SV 2DU 3SW 2DV 3SX 2DW 3SY 2DX ~9J 2DY ~9J 2DZ 3SZ 2E0 ~9J 2E1 ~9J 2E2 ~i2 2E3 3T0 2E4 ~9J 2E5 3T1 2E6 ~9J 2E7 ~9J 2E8 3T2 2E9 3T3 2Ea 3T4 2Eb 3T5 2Ec 3T6 2Ed 3T7 2Ee 3T8 2Ef 3T9 2Eg 3Ta 2Eh 3Tb 2Ei 3Tc 2Ej 3Td 2Ek 3Te 2El 3Tf 2Em 3Tg 2En 3Th 2Eo 3Ti 2Ep 3Tj 2Eq 3Tk 2Er 3Tl 2Es 3Tm 2Et 3Tn 2Eu 3To\nO 9I C ^\nO 9I C ^\nO 9I C ^ o 1 1Nr ~9J\nO 9I C ^ o 1 2 ~59\nO 9I C ^ o 1 2 ~59\nO 9I C ^ o 1 2 ~59\nO 9I C ^ o 2 1NE ~bb 2 ~59\nO 9I C ^ o 1 2 ~59\nO 9I C ^ a 1 1NO 3Tr o 1 1NB ~bb\nO 9I C ^ a 1 1NO 3Tq o 2 1NB ~bb 2 ~59\nO 9I C ^ a 1 1NO 3Tp o 2 1NB ~bb 2 ~59\nO 9I C ^\nO 9I C ^ o 1 2 ~59\nO 9I C ^\nO 9I C ^\nO 9I C ^ o 1 2 ~59\nO 9I C ^\nO 9I C ^ o 1 1NB ~bb\nO 9I C ^ o 1 2 ~59\nO 9I C ^\nO 9I C ^\nO 9I C ^\nO 9I C ^\nO 9I C ^\nO 9I C ^\nO 9I C ^\nO 9I C ^\nO 9I C ^\nO 9I C ^\nO 9I C ^\nO 9I C ^\nO 9I C ^\nO 9I C ^\nO 9I C ^\nO 9I C ^\nO 9I C ^\nO 9I C ^\nO 9I C ^\nO 9I C ^\nO 9I C ^\nO 9I C ^\nO 9I C ^\nO 9I C ^\nO 9I C ^\nO 9I C ^\nO 9I C ^\nO 9I C ^\nO 9I C ^\nO 9I C ^\nO 9I C ^\nO 9I C ^\nO 9I C ^\nO 9I C ^\nO 9I C ^\nO 9I C ^\nO 9I C ^\nO 9I C ^ o 2 2 ~59 1Nr ~9J\nO 9I C ^ o 2 2 ~59 1Nr ~9J\nO 9I C ^\nO 9I C ^\nO 9I C ^\nO 9I C ^\nO 9I C ^\nO 9I C ^\nO 9I C ^\nO 9I C ^\nO 9I C ^\nO 9I C ^\nO 9I C ^\nO 9I C ^\nO 9I C ^\nO 9I C ^\nO 9I C ^\nO 9I C ^\nO 9I C ^\nO 9I C ^\nO 9I C ^\nO 9I C ^\nO 9I C ^\nO 9I C ^\nO 9I C ^\nO 9I C ^\nO 9I C ^\nO 9I C ^\nO 9I C ^\nO 9I C ^\nO 9I C ^\nO 9I C ^\nO 9I C ^\nO 9I C ^\nO 9I C ^\nO 9I C ^\nO 9I C ^\nO 9I C ^\nO 9I C ^\nO 9I C ^\nO 9I C ^\nO 9I C ^\nO 9I C ^\nO 9I C ^\nO 9I C ^\nO 9I C q mN nx 2D0 o 1 2 ~59\nO 9I C q mN nx 2CZ o 2 2 ~59 1Nr ~9J\nO 9I C q mN nx 2CY o 1 1NE ~bb\nO 9I C ^\nO GI I k 3TM R k 3TM a 8 1Ns ~7d 1Nt ~7d 1Ny ~7d 2 ~7d 1X8 ~8P 1Nz ~8P 11W ~59 1X9 ~59\nO GI I k 3TN R k 3TN a 8 1Ns ~7d 1Nt ~7d 1Ny ~7d 2 ~7d 1X8 ~8P 1Nz ~8P 11W ~59 1X9 ~59\nO GI I k 3TO R k 3TO a 8 1Ns ~7d 1Nt ~7d 1Ny ~7d 2 ~7d 1X8 ~8P 1Nz ~8P 11W ~59 1X9 ~59\nO GI I k 3TP R k 3TP a 8 1Ns ~7d 1Nt ~7d 1Ny ~7d 2 ~7d 1X8 ~8P 1Nz ~8P 11W ~59 1X9 ~59\nO GI I k 3TQ R k 3TQ a 8 1Ns ~7d 1Nt ~7d 1Ny ~7d 2 ~7d 1X8 ~8P 1Nz ~8P 11W ~59 1X9 ~59\nO GI I k 3TR R k 3TR a 8 1Ns ~7d 1Nt ~7d 1Ny ~7d 2 ~7d 1X8 ~8P 1Nz ~8P 11W ~59 1X9 ~59\nO GI I k 3TS R k 3TS a 8 1Ns ~7d 1Nt ~7d 1Ny ~7d 2 ~7d 1X8 ~8P 1Nz ~8P 11W ~59 1X9 ~59\nO GI I k 3TT R k 3TT a 8 1Ns ~7d 1Nt ~7d 1Ny ~7d 2 ~7d 1X8 ~8P 1Nz ~8P 11W ~59 1X9 ~59\nO GI I k 3TU R k 3TU a 8 1Ns ~7d 1Nt ~7d 1Ny ~7d 2 ~7d 1X8 ~8P 1Nz ~8P 11W ~59 1X9 ~59\nO GI I k 3TU R k 3TU a 8 1Ns ~7d 1Nt ~7d 1Ny ~7d 2 ~7d 1X8 ~8P 1Nz ~8P 11W ~59 1X9 ~59\nO GI I k 3TV R k 3TV a 8 1Ns ~7d 1Nt ~7d 1Ny ~7d 2 ~7d 1X8 ~8P 1Nz ~8P 11W ~59 1X9 ~59\nO GI I k 3TW R k 3TW a 8 1Ns ~7d 1Nt ~7d 1Ny ~7d 2 ~7d 1X8 ~8P 1Nz ~8P 11W ~59 1X9 ~59\nO GI I k 3TX R k 3TX a 8 1Ns ~7d 1Nt ~7d 1Ny ~7d 2 ~7d 1X8 ~8P 1Nz ~8P 11W ~59 1X9 ~59\nO GI I k 3TY R k 3TY a 8 1Ns ~7d 1Nt ~7d 1Ny ~7d 2 ~7d 1X8 ~8P 1Nz ~8P 11W ~59 1X9 ~59\nO GI I k 3TZ R k 3TZ a 8 1Ns ~7d 1Nt ~7d 1Ny ~7d 2 ~7d 1X8 ~8P 1Nz ~8P 11W ~59 1X9 ~59\nO GI I k 3U0 R k 3U0 a 8 1Ns ~7d 1Nt ~7d 1Ny ~7d 2 ~7d 1X8 ~8P 1Nz ~8P 11W ~59 1X9 ~59\nO GI I k 3U1 R k 3U1 a 8 1Ns ~7d 1Nt ~7d 1Ny ~7d 2 ~7d 1X8 ~8P 1Nz ~8P 11W ~59 1X9 ~59\nO GI I k 3U2 R k 3U2 a 8 1Ns ~7d 1Nt ~7d 1Ny ~7d 2 ~7d 1X8 ~8P 1Nz ~8P 11W ~59 1X9 ~59\nO GI I k 3U3 R k 3U3 a 8 1Ns ~7d 1Nt ~7d 1Ny ~7d 2 ~7d 1X8 ~8P 1Nz ~8P 11W ~59 1X9 ~59\nO 3RK a 4 1Xa ~5j 1Xb ~59 1N1 3RK 1Xc ~5j\nO 3RK a 4 1Xa ~5j 1Xb ~59 1N1 3RK 1Xc ~5j\nO 3RK a 4 1Xa ~5j 1Xb ~59 1N1 3RK 1Xc ~5j\nO 3RK a 4 1Xa ~5j 1Xb ~59 1N1 3RK 1Xc ~5j\nO 3RK a 4 1Xa ~5j 1Xb ~59 1N1 3RK 1Xc ~5j\nO 3RK a 4 1Xa ~5j 1Xb ~59 1N1 3RK 1Xc ~5j\nO 3RK a 4 1Xa ~5j 1Xb ~59 1N1 3RK 1Xc ~5j\nO 3RK a 4 1Xa ~5j 1Xb ~59 1N1 3RK 1Xc ~5j\nO 3RK a 4 1Xa ~5j 1Xb ~59 1N1 3RK 1Xc ~5j\nO 3RK a 4 1Xa ~5j 1Xb ~59 1N1 3RK 1Xc ~5j\nO 3RK a 4 1Xa ~5j 1Xb ~59 1N1 3RK 1Xc ~5j\nO 3RK a 4 1Xa ~5j 1Xb ~59 1N1 3RK 1Xc ~5j\nO 3RK a 4 1Xa ~5j 1Xb ~59 1N1 3RK 1Xc ~5j\nO 3RK a 4 1Xa ~5j 1Xb ~59 1N1 3RK 1Xc ~5j\nO 3RK a 4 1Xa ~5j 1Xb ~59 1N1 3RK 1Xc ~5j\nO 3RK a 4 1Xa ~5j 1Xb ~59 1N1 3RK 1Xc ~5j\nO 3RK a 4 1Xa ~5j 1Xb ~59 1N1 3RK 1Xc ~5j\nO 3RK a 4 1Xa ~5j 1Xb ~59 1N1 3RK 1Xc ~5j\nO bz C t 1NP F 3U5\nO 9I C q mN nl 1KX o 1 1NE ~bb\nO bz C t 1NP F 3U7\nO 9I C q mN nk 1KX\nO 6l D ^\nO bz C t 1NP F 3Ua\nO 9I C q mN nf 1KX\nO bz C t 1NP F 3Rv\nO bz C t 1NP F 3Rv\nO bz C t 1NP F 3Rv\nO bz C t 1NP F 3Rv\nO 9I C ^\nO 9I C ^\nO 9I C ^\nO 6l D ^\nO 6l D ^\nO 6l D ^\nO 6l D ^\nO 6l D ^\nO 6l D ^\nO 6l D ^\nO 6l D ^\nO 6l D ^\nO 6l D ^\nO 6l D ^\nO 6l D ^\nO 6l D ^\nO 6l D ^\nO 6l D ^\nO 9F o 2 1Ns 3RE 1Nt 3RF\nO 9F o 1 1Nt 3Rt\nO 9F o 1 1Nt 3Rt\nO 6l D ^\nO 6l D ^\nO 6l D ^\nO 7c C b S 3Pk o 1 1LQ ~7d\nO 6R C d D ^\nO 6R C d D ^\nO 6R C d D ^\nO 6R C d D ^\nO 6G C d D ^ o 2 2 ~7d 1L4 ~7d\nO 6l D ^ o 1 2 ~7d\nO 8N a 9 11W ~59 1M1 5a 1M2 ~59 1M3 ~7d 1M4 ~7d 1M5 ~8O 1M6 ~8P 1M7 ~7d 1M8 ~8P o 1 1M9 ~7d\nO 7c C ^ S Q\nO kA a 2 11W ~59 NL ~59\nO 8N a 9 11W ~59 1M1 3UM 1M2 ~59 1M3 ~7d 1M4 ~7d 1M5 ~8O 1M6 ~8P 1M7 ~59 1M8 ~8P\nO 9I C ^\nT 5k P = mj 1 5l 2 3UP 5l C ^ a v 1LQ ~59 2 ~59 1L2 3W2 2Ev 3W3 Ed 3W4 2Ew 3W5 2Ex 3W6 2Ey 3W7 29w 3W8 2Ez 3W9 2EA 3Wa 2ot 3Wb 2oE 3Wc 2jQ 3Wd 2EB 3We 2EC 3Wf 2ED 3Wg 2j2 3Wh 2EE 3Wi 2EF 3Wj 2EG 3Wk 2EH 3Wl 2EI 3Wm 2EJ 3Wn 2EK 3Wo 2EL 3Wp 2EM 3Wq 2EN 3Wr 2EO 3Ws 1L3 3Wt 1M0 3Wu\nT 5k P = mk 1 3UP 3 3UQ 3UP 5l C ^ a 3 1LQ ~59 2 ~59 2EL 3W1\nT 5k P = ml 1 3UQ 4 3UR 3UQ 3UP 5l C ^ a 3 1LQ ~59 2 ~59 2EK 3W0\nT 5k P = mm 1 3UP 3 3US 3UP 5l C ^ a 3 1LQ ~59 2 ~59 2EM 3VZ\nT 5k P = mn 1 3UP 3 3UT 3UP 5l C ^ a 4 1LQ ~59 2 ~59 2EN 3VX 2EO 3VY\nO 9I C ^\nT 5k P = 5P 1 8r 4 3UV 8r 8s 5l C ^ a 5 1LQ ~59 2 ~59 1L2 3VU 1L6 3VV 1M0 3VW\nT 5k P = mp 1 8r 4 3UW 8r 8s 5l C ^ a 3 1LQ ~59 2 ~59 1M0 3VT\nT 5k P = mr 1 2Bx 4 3UX 2Bx 2By 5l C ^ a 5 1LQ ~59 1L2 3VQ 10T 3VR 2j0 3VS 2 ~7d o 1 2 ~7d\nT 5k P = ms 1 2Bx 4 3UY 2Bx 2By 5l C ^ a 4 1LQ ~59 1L2 3VO 10T 3VP 2 ~7d o 1 2 ~7d\nT 5k P = mt 1 2Bx 4 3UZ 2Bx 2By 5l C ^ a 4 1LQ ~59 1L2 3VM 10T 3VN 2 ~7d o 1 2 ~7d\nT 5k P = mu 1 3UZ 5 3V0 3UZ 2Bx 2By 5l C ^ a 3 1LQ ~59 1L2 3VL 2 ~7d o 1 2 ~7d\nT 5k P = mv 1 3UZ 5 3V1 3UZ 2Bx 2By 5l C ^ a 3 1LQ ~59 1L2 3VK 2 ~7d o 1 2 ~7d\nT 5k P = mw 1 2Bx 4 3V2 2Bx 2By 5l C ^ a 4 1LQ ~59 1L2 3VI 10T 3VJ 2 ~7d o 1 2 ~7d\nT 5k P = mx 1 2Bx 4 3V3 2Bx 2By 5l C ^ a 4 1LQ ~59 1L2 3VG 10T 3VH 2 ~7d o 1 2 ~7d\nT 5k P = my 1 2Bx 4 3V4 2Bx 2By 5l C ^ a 4 1LQ ~59 1L2 3VE 10T 3VF 2 ~7d o 1 2 ~7d\nT 5k P = mz 1 2Bx 4 3V5 2Bx 2By 5l C ^ a 4 1LQ ~59 1L2 3VC 10T 3VD 2 ~7d o 1 2 ~7d\nT 5k P = mA 1 2Bx 4 3V6 2Bx 2By 5l C ^ a 4 1LQ ~59 1L2 3VA 10T 3VB 2 ~7d o 1 2 ~7d\nT 5k P = mB 1 2Bx 4 3V7 2Bx 2By 5l C ^ a 7 1LQ ~59 2EP 3Vu 1L2 3Vv 2EQ 3Vw 2ER 3Vx 10T 3Vy 2 ~7d o 1 2 ~7d\nT 5k P = mC 1 3V2 5 3V8 3V2 2Bx 2By 5l C ^ a 3 1LQ ~59 10T 3Vt 2 ~7d o 1 2 ~7d\nT 5k P = mD 1 5l 2 3V9 5l C ^ a 7 1LQ ~59 2 ~59 1L2 3Vo 10T 3Vp 1KY 3Vq 1L3 3Vr 1M0 3Vs\nT 5k P = mE 1 2By 3 3Va 2By 5l C ^ a 6 1LQ ~59 2 ~59 1L2 3Vl 10L 3Vm 11b 3Vn 1L5 ~7d\nT 5k P = mG 1 2BK 3 3Vb 2BK 5l C ^ a 6 1LQ ~59 1L2 3Vh 2o9 3Vi 2ow 3Vj 2ou 3Vk 2 ~7d o 1 2 ~7d\nT 5k P = mH 1 3Vb 4 3Vc 3Vb 2BK 5l C ^ a 6 1LQ ~59 1L2 3Vd 2o9 3Ve 2ow 3Vf 2ov 3Vg 2 ~7d o 1 2 ~7d\nO 9I C ^ o 2 1NB ~bb 1NE ~bb\nO 9I C ^\nO 9I C ^\nO 9I C ^ o 1 1NB ~bb\nO 9I C ^ o 2 1NB ~bb 1NE ~bb\nO 9I C ^ o 1 1NB ~bb\nO 9I C ^ o 1 1NB ~bb\nO 9I C ^ o 1 1NB ~bb\nO 9I C ^\nO 9I C ^\nO 9I C ^\nO 9I C ^ o 1 1NE ~bb\nO 9I C ^\nO 9I C ^\nO 6l D ^\nO 6l D ^\nO 9I C ^ o 1 1NE ~bb\nT 5k P 2EP 2ES 1 2Bx 4 3Vu 2Bx 2By 5l C ^ a 3 1LQ ~59 1L2 3Vz 2 ~7d o 1 2 ~7d\nO 9I C ^ o 2 1NB ~bb 1NE ~bb\nO 9I C ^\nO 9I C ^\nO 9I C ^ o 1 1NE ~bb\nO 9I C ^ o 1 1NB ~bb\nO 9I C ^ o 2 1NB ~bb 1NE ~bb\nO 9I C ^ o 1 1NE ~bb\nO 9I C ^ o 2 1NB ~bb 1NE ~bb\nO 9I C ^ o 1 1NE ~bb\nO 9I C ^ o 2 1NB ~bb 1NE ~bb\nO 9I C ^ o 1 1NE ~bb\nO 9I C ^ o 2 1NB ~bb 1NE ~bb\nO 9I C ^ o 1 1NE ~bb\nO 9I C ^ o 2 1NB ~bb 1NE ~bb\nO 9I C ^ o 1 1NE ~bb\nO 9I C ^ o 2 1NB ~bb 1NE ~bb\nO 9I C ^ o 2 1NB ~bb 1NE ~bb\nO 9I C ^ o 2 1NB ~bb 1NE ~bb\nO 9I C ^ o 1 1NE ~bb\nO 9I C ^ o 2 1NB ~bb 1NE ~bb\nO 9I C ^ o 1 1NE ~bb\nO 9I C ^ o 2 1NB ~bb 1NE ~bb\nO 9I C ^ o 1 1NE ~bb\nO 9I C ^\nO 6l D ^\nO 9I C ^\nO 9I C ^\nO 6l D ^\nO 9I C ^\nO 9I C ^\nO 9I C ^ o 1 2 ~59\nO 9I C ^\nO 9I C ^\nO 9I C ^ o 1 1NE ~bb\nO 9I C ^\nO 9I C ^\nT 5k P 2Ew 2ET 1 5l 2 3W5 5l C ^ a 6 1LQ ~59 1L2 3Wv 2jQ 3Ww 1L3 3Wx 1M0 3Wy 2 ~7d o 1 2 ~7d\nO 9I C ^\nO 9I C ^\nO 9I C ^\nO 9I C ^\nO 9I C ^ o 1 1NE ~bb\nO 9I C ^\nO 9I C ^\nO 9I C ^\nO 9I C ^\nO 9I C ^\nO 9I C ^\nO 9I C ^\nO 9I C ^\nO 9I C ^\nO 9I C ^\nO 9I C ^\nO 9I C ^\nO 9I C ^\nO 9I C ^\nO 9I C ^\nO 9I C ^\nO 9I C ^\nO 9I C ^\nO 6l D ^\nO 6l D ^\nO 9I C ^ o 1 1NE ~bb\nO 9I C ^\nO 6l D ^\nO 6l D ^\nO 8N a 9 11W ~59 1M1 d6 1M2 ~59 1M3 3WO 1M4 ~7d 1M5 ~8O 1M6 ~8P 1M7 ~7d 1M8 ~8P o 1 1M9 ~7d\nT 5k P = lZ 1 b0 3 3WA b0 5l C ^ a 5 1LQ ~59 2 ~59 1Nz ~8P 1L2 3WM 1M0 3WN\nT 5k P = m0 1 bz 3 3WB bz 5l C ^ a 5 1LQ ~59 2 ~59 1Nz ~8P 1L2 3WK 1M0 3WL\nO 7c C ^ S 1\nO 7c C ^ S 1\nO 7c C ^ S 1\nO 7c C ^ S 1\nO 7c C ^ S 1\nO 7c C ^ S 1\nO 7c C ^ S 1\nO 9I C ^ o 1 2 ~59\nO 9I C ^ o 1 1NB ~bb\nO 6l D ^\nO 9I C ^ o 1 1NB ~bb\nO 6l D ^\nO fx a 2 Ik ~59 1Oj ~59\nO kA a 2 11W ~59 NL ~59\nO 8N a 9 11W ~59 1M1 3WP 1M2 ~59 1M3 ~7d 1M4 ~7d 1M5 ~8O 1M6 ~8P 1M7 ~59 1M8 ~8P\nO 8N a 9 11W ~59 1M1 5a 1M2 ~59 1M3 ~7d 1M4 ~7d 1M5 ~8O 1M6 ~8P 1M7 ~7d 1M8 ~8P o 1 1M9 ~7d\nO 8N a 9 11W ~59 1M1 5a 1M2 ~59 1M3 ~7d 1M4 ~7d 1M5 ~8O 1M6 ~8P 1M7 ~7d 1M8 ~8P o 1 1M9 ~7d\nO 8N a 9 11W ~59 1M1 5a 1M2 ~59 1M3 ~7d 1M4 ~7d 1M5 ~8O 1M6 ~8P 1M7 ~7d 1M8 ~8P o 1 1M9 ~7d\nO 8N a 9 11W ~59 1M1 5a 1M2 ~59 1M3 ~7d 1M4 ~7d 1M5 ~8O 1M6 ~8P 1M7 ~7d 1M8 ~8P o 1 1M9 ~7d\nO 8N a 9 11W ~59 1M1 5a 1M2 ~59 1M3 ~7d 1M4 ~7d 1M5 ~8O 1M6 ~8P 1M7 ~7d 1M8 ~8P o 1 1M9 ~7d\nO 7c C ^ S I o 1 1L4 ~7d\nO 7c C ^ S I o 1 1L4 ~7d\nO 7c C ^ S I o 1 1L4 ~7d\nO 7c C ^ S I o 1 1L4 ~7d\nO 7c C ^ S I o 1 1L4 ~7d\nO 7c C ^ S I o 1 1L4 ~7d\nO 8N a 9 11W ~59 1M1 5a 1M2 ~59 1M3 ~7d 1M4 ~7d 1M5 ~8O 1M6 ~8P 1M7 ~7d 1M8 ~8P o 1 1M9 ~7d\nO 8N a 9 11W ~59 1M1 5a 1M2 ~59 1M3 ~7d 1M4 ~7d 1M5 ~8O 1M6 ~8P 1M7 ~7d 1M8 ~8P o 1 1M9 ~7d\nO 7c C ^ S G o 1 1L4 ~7d\nO 7c C ^ S G o 1 1L4 ~7d\nO 8N a 9 11W ~59 1M1 5a 1M2 ~59 1M3 ~7d 1M4 ~7d 1M5 ~8O 1M6 ~8P 1M7 ~7d 1M8 ~8P o 1 1M9 ~7d\nO 8N a 9 11W ~59 1M1 5a 1M2 ~59 1M3 ~7d 1M4 ~7d 1M5 ~8O 1M6 ~8P 1M7 ~7d 1M8 ~8P o 1 1M9 ~7d\nO 8N a 9 11W ~59 1M1 5a 1M2 ~59 1M3 ~7d 1M4 ~7d 1M5 ~8O 1M6 ~8P 1M7 ~7d 1M8 ~8P o 1 1M9 ~7d\nO 7c C ^ S D o 1 2 ~7d\nO 7c C ^ S D o 1 2 ~7d\nO 7c C ^ S D o 1 2 ~7d\nO 7c C ^ S D o 1 2 ~7d\nO 7c C ^ S D o 1 2 ~7d\nO 7c C ^ S D o 1 2 ~7d\nO 8N a 9 11W ~59 1M1 5a 1M2 ~59 1M3 ~7d 1M4 ~7d 1M5 ~8O 1M6 ~8P 1M7 ~7d 1M8 ~8P o 1 1M9 ~7d\nO 7c C ^ S C o 1 1L4 ~7d\nO 7c C ^ S C o 1 1L4 ~7d\nO 8N a 9 11W ~59 1M1 d6 1M2 ~59 1M3 3Xj 1M4 ~7d 1M5 ~8O 1M6 ~8P 1M7 ~7d 1M8 ~8P o 1 1M9 ~7d\nO fx a 2 Ik ~59 1Oj ~59\nO 8N a 9 11W ~59 1M1 5a 1M2 ~59 1M3 ~7d 1M4 ~7d 1M5 ~8O 1M6 ~8P 1M7 ~7d 1M8 ~8P o 1 1M9 ~7d\nO 7c C ^ S A\nO 7c C ^ S A\nO 7c C ^ S A\nO 7c C ^ S A\nO 7c C ^ S A\nO 7c C ^ S A\nO 8N a 9 11W ~59 1M1 5a 1M2 ~59 1M3 ~7d 1M4 ~7d 1M5 ~8O 1M6 ~8P 1M7 ~7d 1M8 ~8P o 1 1M9 ~7d\nO 7c C ^ S z\nT 5k P 2EU di 1 5l 2 3Xt 5l C q dh - di a 9 wg 3Xu LJ 3Xv 2ud 3Xw 1NL 3Xx LI 3Xy 2uh 3Xz 11W 3XA 2 ~7d 1LQ ~59 o 1 2 ~7d\nO 6G C d D ^\nO 6G C d D ^\nO 6G C d D ^\nO 6G C d D ^\nO 6v D ^\nO 6l D ^ o 1 2 ~7d\nO 6l D ^ o 1 2 ~7d\nO 8N a 9 11W ~59 1M1 5a 1M2 ~59 1M3 ~7d 1M4 ~7d 1M5 ~8O 1M6 ~8P 1M7 ~7d 1M8 ~8P o 1 1M9 ~7d\nO 8N a 9 11W ~59 1M1 5a 1M2 ~59 1M3 ~7d 1M4 ~7d 1M5 ~8O 1M6 ~8P 1M7 ~7d 1M8 ~8P o 1 1M9 ~7d\nO 8N a 9 11W ~59 1M1 5a 1M2 ~59 1M3 ~7d 1M4 ~7d 1M5 ~8O 1M6 ~8P 1M7 ~7d 1M8 ~8P o 1 1M9 ~7d\nO 8N a 9 11W ~59 1M1 5a 1M2 ~59 1M3 ~7d 1M4 ~7d 1M5 ~8O 1M6 ~8P 1M7 ~7d 1M8 ~8P o 1 1M9 ~7d\nO 8N a 9 11W ~59 1M1 5a 1M2 ~59 1M3 ~7d 1M4 ~7d 1M5 ~8O 1M6 ~8P 1M7 ~7d 1M8 ~8P o 1 1M9 ~7d\nO 7c C ^ S u\nO 8N a 9 11W ~59 1M1 5a 1M2 ~59 1M3 ~7d 1M4 ~7d 1M5 ~8O 1M6 ~8P 1M7 ~7d 1M8 ~8P o 1 1M9 ~7d\nO 7c C ^ S t\nO 8N a 9 11W ~59 1M1 5a 1M2 ~59 1M3 ~7d 1M4 ~7d 1M5 ~8O 1M6 ~8P 1M7 ~7d 1M8 ~8P o 1 1M9 ~7d\nO 7c C ^ S s o 1 2 ~7d\nT 5k P 2EV c0 0 5l 2 3XL 5l C ^ a h 1KX 3XM 217 3XN 1ah 3XO 1P8 3XP 1P9 3XQ lt 3XR 2EW 3XS 1TI 3XT 2EX 3XU 2EY 3XV 1wi 3XW 25Z 3XX 2qd 3XY 2EZ 3XZ 11W 3Y0 2 ~59 2F0 ~5j\nO 7c C b S 3XL o 1 1LQ ~7d\nO 6G C d D ^\nO 6G C d D ^\nO 6G C d D ^\nO 6G C d D ^\nO 6G C d D ^\nO 6G C d D ^\nO 6G C d D ^\nO 6G C d D ^\nO 72 C d D ^ Y 7c o 2 2 ~7d 1L4 ~59\nO 6G C d D ^\nO 6v D ^ o 1 2 ~59\nO 6v D ^ o 1 2 ~59\nO 6v D ^ o 1 2 ~59\nO 6v D ^ o 1 2 ~59\nO kA a 2 11W ~59 NL ~59\nO 8N a 9 11W ~59 1M1 3Y1 1M2 ~59 1M3 ~7d 1M4 ~7d 1M5 ~8O 1M6 ~8P 1M7 ~59 1M8 ~8P\nO oA C q pA 1dt 1dk S ~oB o 1 1LQ ~7d\nO oA C q pA 1dt 1dk S ~oB o 1 1LQ ~7d\nO 8N a 9 11W ~59 1M1 5a 1M2 ~59 1M3 ~7d 1M4 ~7d 1M5 ~8O 1M6 ~8P 1M7 ~7d 1M8 ~8P o 1 1M9 ~7d\nO 8N a 9 11W ~59 1M1 5a 1M2 ~59 1M3 ~7d 1M4 ~7d 1M5 ~8O 1M6 ~8P 1M7 ~7d 1M8 ~8P o 1 1M9 ~7d\nO 8N a 9 11W ~59 1M1 5a 1M2 ~59 1M3 ~7d 1M4 ~7d 1M5 ~8O 1M6 ~8P 1M7 ~7d 1M8 ~8P o 1 1M9 ~7d\nO 8N a 9 11W ~59 1M1 5a 1M2 ~59 1M3 ~7d 1M4 ~7d 1M5 ~8O 1M6 ~8P 1M7 ~7d 1M8 ~8P o 1 1M9 ~7d\nO 8N a 8 11W ~59 1M1 5a 1M2 ~59 1M3 ~7d 1M4 ~7d 1M5 ~8O 1M6 ~8P 1M7 ~7d o 1 1M9 ~7d\nO 7c C ^ S m\nO 7c C ^ S m\nO 7c C ^ S m\nO 7c C ^ S m\nO 7c C ^ S m\nO 7c C ^ S m\nO 7c C ^ S m\nO 7c C ^ S m\nO 7c C ^ S m\nO 7c C ^ S m\nO 7c C ^ S m\nO 7c C ^ S m\nO 7c C ^ S m\nO 7c C ^ S m\nO 7c C ^ S m\nO 7c C ^ S m\nO 7c C ^ S m\nO 7c C ^ S m o 1 2 ~7d\nO 8N a 9 11W ~59 1M1 5a 1M2 ~59 1M3 ~7d 1M4 ~7d 1M5 ~8O 1M6 ~8P 1M7 ~7d 1M8 ~8P o 1 1M9 ~7d\nO 8N a 9 11W ~59 1M1 5a 1M2 ~59 1M3 ~7d 1M4 ~7d 1M5 ~8O 1M6 ~8P 1M7 ~7d 1M8 ~8P o 1 1M9 ~7d\nO 7c C ^ S k\nO 7c C ^ S k\nO 7c C ^ S k\nO 7c C ^ S k\nT 5k P 2F1 95 1 5l 2 3Yy 5l C ^ a a 1KY 3YO 1NL 3YP LJ 3YQ 2ud 3YR wg 3YS LI 3YT 2uh 3YU 11W 3YV 2 ~59 1LQ ~59 o 1 1L4 ~59\nT 5k P 2F2 96 1 3Yy 3 3Yz 3Yy 5l C ^ a 5 LJ 3YL 2ud 3YM LI 3YN 2 ~59 1LQ ~59 o 1 1L4 ~59\nT 5k P 2F3 97 1 5l 2 3YA 5l C ^ a a 1KY 3YD 1NL 3YE LJ 3YF 2ud 3YG wg 3YH LI 3YI 2uh 3YJ 11W 3YK 2 ~59 1LQ ~59\nT 5k P = 9a 1 152 5 3YB 152 8r 8s 5l C ^ a 3 1LQ ~59 1M0 3YC 2 ~7d o 1 2 ~7d\nO 6l D ^\nO 6R C d D ^\nO 6G C d D ^\nO 6G C d D ^\nO 6G C d D ^\nO 6G C d D ^\nO 6l D ^ o 1 2 ~7d\nO 6l D ^ o 1 2 ~7d\nO 6l D ^ o 1 2 ~7d\nO 6G C d D ^\nO 6G C d D ^\nO 6l D ^ o 1 2 ~7d\nO 6R C d D ^\nO 6G C d D ^\nO 6G C d D ^\nO 6G C d D ^\nO 6G C d D ^\nO 6l D ^ o 1 2 ~7d\nO 6l D ^ o 1 2 ~7d\nO 6l D ^ o 1 2 ~7d\nO 8N a 9 11W ~59 1M1 5a 1M2 ~59 1M3 ~7d 1M4 ~7d 1M5 ~8O 1M6 ~8P 1M7 ~7d 1M8 ~8P o 1 1M9 ~7d\nO 8N a 9 11W ~59 1M1 d6 1M2 ~59 1M3 3ZA 1M4 ~7d 1M5 ~8O 1M6 ~8P 1M7 ~7d 1M8 ~8P o 1 1M9 ~7d\nO 9I C q Mt - 7O\nO 9I C q Mt 2F4 7P o 1 2 ~59\nO 9I C q Mt - 7T o 1 2 ~59\nO 9I C q Mt - 7U o 1 2 ~59\nO 9I C q Mt - 7V o 1 2 ~59\nO 9I C q Mt - 7W o 1 2 ~59\nO 9I C q Mt - 7X o 1 2 ~59\nO 9I C q Mt - 7Y o 1 2 ~59\nO 9I C q Mt - 7Z o 1 2 ~59\nO 9I C q Mt - 80 o 2 1NE ~bb 2 ~59\nO 9I C q Mt - 8d o 1 2 ~59\nO 9I C q Mt - 8e\nO 9I C q Mt - 8f o 1 2 ~59\nO 9I C q Mt - 8g o 1 2 ~59\nO 9I C q Mt - 8i o 1 2 ~59\nO 9I C q Mt - 8j o 1 2 ~59\nO 9I C q Mt - 8k o 1 2 ~59\nO 9I C q Mt - 8l o 2 1NE ~bb 2 ~59\nO 9I C q Mt - 8m o 2 1NE ~bb 2 ~59\nO 9I C q Mt - 8n o 2 1NE ~bb 2 ~59\nT 5k P = 8y 1 5l 2 3Zi 5l C q Mt - 8y a g 1LQ ~59 2 ~59 2F5 ~5j 1L2 3Zn 2F6 3Zo 2F7 3Zp 2F8 3Zq 1L7 3Zr 11d 3Zs 11e 3Zt 1L9 3Zu 1KY 3Zv 11b 3Zw 1Nk 3Zx 1L3 3Zy 1M0 3Zz\nO 9I C q Mt - 8D o 1 1NE ~bb\nO 9I C q Mt - 8E o 1 2 ~59\nO 9I C q Mt - 8F\nO 9I C q Mt - 7y o 1 2 ~59\nO 9I C ^\nO 9I C ^ o 1 2 ~59\nO 9I C ^\nO 9I C ^\nO 9I C ^\nO 9I C ^\nO 9I C ^\nO 9I C ^\nO 9I C ^\nO 9I C ^\nO 9I C ^\nO 6l D ^\nO 6l D ^\nO fx a 2 Ik ~59 1Oj ~59\nO 8N a 8 11W ~59 1M1 d6 1M2 ~59 1M3 40w 1M4 ~7d 1M5 ~8O 1M6 ~8P 1M7 ~7d o 1 1M9 ~7d\nO 9I C q Ms - 6L\nO 9I C q Ms - 6Q o 1 2 ~59\nO 9I C q Ms - 6R\nT 5k P = 6U 1 17G 5 3ZF 17G 8r 8s 5l C q Ms - 6U a 3 1LQ ~59 1M0 40v 2 ~7d o 1 2 ~7d\nT 5k P = 6V 1 5l 2 3ZG 5l C q Ms - 6V a 9 1LQ ~59 2 ~59 1L2 40o 2F9 40p 217 40q 1ah 40r 1KY 40s 1L3 40t 1M0 40u\nT 5k P = 6W 1 5l 2 3ZH 5l C q Ms - 6W a 8 1LQ ~59 2 ~59 1L2 40i 217 40j 1ah 40k 1KY 40l 1L3 40m 1M0 40n\nT 5k P = 6X 1 5l 2 3ZI 5l C q Ms - 6X a 7 1LQ ~59 1L2 40d 1P8 40e 1P9 40f 1L3 40g 1M0 40h 2 ~7d o 1 2 ~7d\nO 9I C q Ms - 6Y o 1 2 ~59\nO 9I C q Ms - 6Z o 1 2 ~59\nO 9I C q Ms - 70 o 1 2 ~59\nO 9I C q Ms - 71 o 2 2 ~59 1Nr ~9J\nO 9I C q Ms - 72 o 1 2 ~59\nO 9I C q Ms - 73 o 1 2 ~59\nO 9I C q Ms - 75 o 1 2 ~59\nO 9I C q Ms - 78 o 1 1NE ~bb\nO 9I C q Ms - 79 o 1 1Nr ~9J\nO 9I C q Ms - 7b o 1 2 ~59\nO 9I C q Ms - 7c o 1 2 ~59\nO 9I C q Ms - 7d\nO 9I C q Ms - 7e\nO 9I C q Ms - 7f o 1 2 ~59\nT 5k P = 7i 1 5l 2 3ZX 5l C q Ms - 7i a 6 1LQ ~59 2 ~59 1P8 409 1P9 40a 1L3 40b 1M0 40c\nO 9I C q Ms - 7k\nO 9I C q Ms - 7m o 1 2 ~59\nO 9I C q Ms - 7p\nO 9I C q Ms - 7r o 1 2 ~59\nO 9I C q Ms - 7s o 2 1NE ~bb 2 ~59\nO 9I C q Ms - 7t o 2 2 ~59 1Nr ~9J\nO 9I C q Ms - 7u o 1 2 ~59\nO 9I C q Ms - 7w\nO 9I C q Ms - 7x o 1 2 ~59\nO 9I C q Ms - 7y o 1 2 ~59\nO 9I C q Ms - 7z o 1 2 ~59\nO 9I C ^ o 1 2 ~59\nO 9I C ^ o 1 2 ~59\nO 6l D ^\nO 6l D ^\nO 9I C ^\nO 9I C ^\nO 9I C ^\nO 6l D ^\nO 6l D ^\nO 9I C ^\nO 9I C ^\nO 9I C ^\nO 9I C ^\nO 6l D ^\nO 6l D ^\nO 9I C ^\nO 9I C ^\nO 9I C ^ o 1 2 ~59\nO 9I C ^\nO 9I C ^\nO 6l D ^\nO 6l D ^\nO 6l D ^\nO fx a 2 Ik ~7d 1Oj ~59\nO 8N a 9 11W ~59 1M1 5a 1M2 ~59 1M3 ~7d 1M4 ~7d 1M5 ~8O 1M6 ~8P 1M7 ~7d 1M8 ~8P o 1 1M9 ~7d\nO 8N a 9 11W ~59 1M1 5a 1M2 ~59 1M3 ~7d 1M4 ~7d 1M5 ~8O 1M6 ~8P 1M7 ~7d 1M8 ~8P o 1 1M9 ~7d\nO 8N a 9 11W ~59 1M1 5a 1M2 ~59 1M3 ~7d 1M4 ~7d 1M5 ~8O 1M6 ~8P 1M7 ~7d 1M8 ~8P o 1 1M9 ~7d\nO 8N a 9 11W ~59 1M1 5a 1M2 ~59 1M3 ~7d 1M4 ~7d 1M5 ~8O 1M6 ~8P 1M7 ~7d 1M8 ~8P o 1 1M9 ~7d\nO 7c C ^ S d o 2 2 ~7d 1L4 ~7d\nO 7c C ^ S d o 1 1L4 ~7d\nO 7c C ^ S d o 1 1L4 ~7d\nO 7c C ^ S d o 1 1L4 ~7d\nO 7c C ^ S d o 2 2 ~7d 1L4 ~7d\nO 7c C ^ S d o 2 2 ~7d 1L4 ~7d\nO 7c C ^ S d o 2 2 ~7d 1L4 ~7d\nO 7c C ^ S d o 2 2 ~7d 1L4 ~7d\nO 7c C ^ S d o 2 2 ~7d 1L4 ~7d\nO 8N a 9 11W ~59 1M1 5a 1M2 ~59 1M3 ~7d 1M4 ~7d 1M5 ~8O 1M6 ~8P 1M7 ~7d 1M8 ~8P o 1 1M9 ~7d\nT 5k P 2Fa 4V 1 5l 2 40L 5l C q 4U - 4V a 6 1L7 40Q 1PP 40R 2Fb 40S 2Fc 40T 2 ~59 1LQ ~59\nT 5k P 2Fd 4W 1 5l 2 40M 5l C q 4U - 4W a 5 2yy 40N 2yz 40O 2Fb 40P 2 ~59 1LQ ~59\nO 6G C d D ^ o 1 1L4 ~7d\nO 6G C d D ^ o 1 1L4 ~7d\nO 6v D ^\nO 6R C d D ^\nO 6R C d D ^\nO 6v D ^\nO 6v D ^\nO 8N a 9 11W ~59 1M1 5a 1M2 ~59 1M3 ~7d 1M4 ~7d 1M5 ~8O 1M6 ~8P 1M7 ~7d 1M8 ~8P o 1 1M9 ~7d\nO kA a 2 11W ~59 NL ~59\nO 8N a 9 11W ~59 1M1 40V 1M2 ~59 1M3 ~7d 1M4 ~7d 1M5 ~8O 1M6 ~8P 1M7 ~59 1M8 ~8P\nO kA a 2 11W ~59 NL ~59\nO 8N a 9 11W ~59 1M1 40X 1M2 ~59 1M3 ~7d 1M4 ~7d 1M5 ~8O 1M6 ~8P 1M7 ~59 1M8 ~8P\nO 8N a 9 11W ~59 1M1 d6 1M2 ~59 1M3 43b 1M4 ~7d 1M5 ~8O 1M6 ~8P 1M7 ~7d 1M8 ~8P o 1 1M9 ~7d\nT 5k P = 3P 0 5l 2 410 5l C q oV - 3P a 7 1KZ 435 1L7 436 1PP 437 25g 438 1MS 439 1N8 43a 2 ~7d o 1 2 ~7d\nT 5k P = 3Q 0 5l 2 411 5l C q oV - 3Q a 7 1KZ 42Z 1L7 430 1PP 431 25g 432 1MS 433 1N8 434 2 ~7d o 1 2 ~7d\nT 5k P = 3R 0 5l 2 412 5l C q oV - 3R a 6 1KZ 42U 1L7 42V 1PP 42W 25g 42X 1MS 42Y 2 ~7d o 1 2 ~7d\nT 5k P = 3S 0 5l 2 413 5l C q oV - 3S a 6 1KZ 42P 1L7 42Q 1PP 42R 25g 42S 1MS 42T 2 ~7d o 1 2 ~7d\nT 5k P = 3T 0 5l 2 414 5l C q oV - 3T a 6 1KZ 42K 1L7 42L 1PP 42M 25g 42N 1MS 42O 2 ~7d o 1 2 ~7d\nT 5k P = 3U 0 5l 2 415 5l C q oV - 3U a 7 1KZ 42E 1L7 42F 1PP 42G 25g 42H 1MS 42I 1N8 42J 2 ~7d o 1 2 ~7d\nT 5k P = 3V 0 5l 2 416 5l C q oV - 3V a 7 1KZ 42y 1L7 42z 1PP 42A 25g 42B 1MS 42C 1N8 42D 2 ~7d o 1 2 ~7d\nT 5k P = 3W 0 5l 2 417 5l C q oV - 3W a 7 1KZ 42s 1L7 42t 1PP 42u 25g 42v 1MS 42w 1N8 42x 2 ~7d o 1 2 ~7d\nT 5k P = 3X 0 5l 2 418 5l C q oV - 3X a 7 1KZ 42m 1L7 42n 1PP 42o 25g 42p 1MS 42q 1N8 42r 2 ~7d o 1 2 ~7d\nT 5k P = 3Y 0 5l 2 419 5l C q oV - 3Y a 6 1KZ 42h 1L7 42i 1PP 42j 25g 42k 1MS 42l 2 ~7d o 1 2 ~7d\nT 5k P = 2Fe 0 5l 2 41a 5l C q oV - 2Fe a 7 1KZ 42b 1L7 42c 1PP 42d 25g 42e 1MS 42f 1N8 42g 2 ~7d o 1 2 ~7d\nT 5k P = 40 0 5l 2 41b 5l C q oV - 40 a 7 1KZ 425 1L7 426 1PP 427 25g 428 1MS 429 1N8 42a 2 ~7d o 1 2 ~7d\nT 5k P = 42 0 5l 2 41c 5l C q oV - 42 a o 1KY 41J 1KZ 41K 10J 41L 10K 41M 10L 41N 10M 41O 10O 41P 10N 41Q 1L7 41R 117 41S 1Mb 41T 10S 41U 1Mi 41V 119 41W 1Mj 41X 113 41Y 1Mk 41Z 1L9 420 11b 421 1PZ 422 1Ni 423 2Ff 424 2 ~7d 1L5 ~7d o 1 2 ~7d\nT 5k P = 43 0 5l 2 41d 5l C q oV - 43 a 7 1KY 41D 1KZ 41E 1L7 41F 1L9 41G 1Ni 41H 2Ff 41I 2 ~7d o 1 2 ~7d\nT 5k P = 44 0 5l 2 41e 5l C q oV - 44 a o 1KY 41h 1KZ 41i 10J 41j 10K 41k 10L 41l 10M 41m 10O 41n 10N 41o 1L7 41p 117 41q 1Mb 41r 10S 41s 1Mi 41t 119 41u 1Mj 41v 113 41w 1Mk 41x 1L9 41y 11b 41z 1PZ 41A 1Ni 41B 2Ff 41C 2 ~7d 1L5 ~7d o 1 2 ~7d\nO 9I C ^ o 1 2 ~59\nO 9I C ^ o 1 2 ~59\nO 6R C d D ^\nO 6R C d D ^\nO 6R C d D ^\nO 6R C d D ^\nO 6R C d D ^\nO 6R C d D ^\nO 6R C d D ^\nO 6R C d D ^\nO 6R C d D ^\nO 6R C d D ^\nO 6R C d D ^\nO 6R C d D ^\nO 6R C d D ^\nO 6R C d D ^\nO 6R C d D ^\nO 6R C d D ^\nO 6R C d D ^\nO 6R C d D ^\nO 6R C d D ^\nO 6G C d D ^ o 1 1L4 ~7d\nO 6G C d D ^ o 1 1L4 ~7d\nO 6l D ^\nO 6R C d D ^\nO 6R C d D ^\nO 6R C d D ^\nO 6R C d D ^\nO 6G C d D ^ o 1 1L4 ~7d\nO 6l D ^\nO 6R C d D ^\nO 6R C d D ^\nO 6R C d D ^\nO 6R C d D ^\nO 6R C d D ^\nO 6R C d D ^\nO 6R C d D ^\nO 6R C d D ^\nO 6R C d D ^\nO 6R C d D ^\nO 6R C d D ^\nO 6R C d D ^\nO 6R C d D ^\nO 6R C d D ^\nO 6R C d D ^\nO 6R C d D ^\nO 6R C d D ^\nO 6R C d D ^\nO 6R C d D ^\nO 6G C d D ^ o 1 1L4 ~7d\nO 6G C d D ^ o 1 1L4 ~7d\nO 6l D ^\nO 6R C d D ^\nO 6R C d D ^\nO 6R C d D ^\nO 6G C d D ^ o 1 1L4 ~7d\nO 6G C d D ^ o 1 1L4 ~7d\nO 6G C d D ^ o 1 1L4 ~7d\nO 6R C d D ^\nO 6R C d D ^\nO 6R C d D ^\nO 6G C d D ^ o 1 1L4 ~7d\nO 6G C d D ^ o 1 1L4 ~7d\nO 6G C d D ^ o 1 1L4 ~7d\nO 6R C d D ^\nO 6R C d D ^\nO 6R C d D ^\nO 6G C d D ^ o 1 1L4 ~7d\nO 6G C d D ^ o 1 1L4 ~7d\nO 6R C d D ^\nO 6R C d D ^\nO 6R C d D ^\nO 6G C d D ^ o 1 1L4 ~7d\nO 6G C d D ^ o 1 1L4 ~7d\nO 6G C d D ^ o 1 1L4 ~7d\nO 6R C d D ^\nO 6R C d D ^\nO 6R C d D ^\nO 6G C d D ^ o 1 1L4 ~7d\nO 6G C d D ^ o 1 1L4 ~7d\nO 6G C d D ^ o 1 1L4 ~7d\nO 6R C d D ^\nO 6R C d D ^\nO 6R C d D ^\nO 6G C d D ^ o 1 1L4 ~7d\nO 6G C d D ^ o 1 1L4 ~7d\nO 6G C d D ^ o 1 1L4 ~7d\nO 6R C d D ^\nO 6R C d D ^\nO 6R C d D ^\nO 6G C d D ^ o 1 1L4 ~7d\nO 6G C d D ^ o 1 1L4 ~7d\nO 6G C d D ^ o 1 1L4 ~7d\nO 6R C d D ^\nO 6R C d D ^\nO 6R C d D ^\nO 6G C d D ^ o 1 1L4 ~7d\nO 6G C d D ^ o 1 1L4 ~7d\nO 6R C d D ^\nO 6R C d D ^\nO 6R C d D ^\nO 6G C d D ^ o 1 1L4 ~7d\nO 6G C d D ^ o 1 1L4 ~7d\nO 6R C d D ^\nO 6R C d D ^\nO 6R C d D ^\nO 6G C d D ^ o 1 1L4 ~7d\nO 6G C d D ^ o 1 1L4 ~7d\nO 6R C d D ^\nO 6R C d D ^\nO 6R C d D ^\nO 6G C d D ^ o 1 1L4 ~7d\nO 6G C d D ^\nO 6G C d D ^ o 1 1L4 ~7d\nO 6R C d D ^\nO 6R C d D ^\nO 6R C d D ^\nO 6G C d D ^ o 1 1L4 ~7d\nO 6G C d D ^ o 1 1L4 ~7d\nO 6G C d D ^ o 1 1L4 ~7d\nO fx a 2 Ik ~59 1Oj ~59\nO 8N a 9 11W ~59 1M1 5a 1M2 ~59 1M3 ~7d 1M4 ~7d 1M5 ~8O 1M6 ~8P 1M7 ~7d 1M8 ~8P o 1 1M9 ~7d\nT 5k P 2Fg 3G 0 5l 2 43d 5l C ^ a 7 1KX 43l 1KZ 43m 1L7 43n 1PP 43o 25g 43p 1MS 43q 2 ~7d o 1 2 ~7d\nT 5k P 2Fh 3H 0 5l 2 43e 5l C ^ a 7 1KX 43f 1KZ 43g 1L7 43h 1PP 43i 25g 43j 1MS 43k 2 ~7d o 1 2 ~7d\nO 7c C b S 43e o 1 1LQ ~7d\nO 6R C d D ^\nO 6R C d D ^\nO 6R C d D ^\nO 6G C d D ^ o 1 1L4 ~7d\nO 6G C d D ^ o 1 1L4 ~7d\nO 7c C b S 43d o 1 1LQ ~7d\nO 6R C d D ^\nO 6R C d D ^\nO 6R C d D ^\nO 6G C d D ^ o 1 1L4 ~7d\nO 6G C d D ^ o 1 1L4 ~7d\nO 8N a 9 11W ~59 1M1 5a 1M2 ~59 1M3 ~7d 1M4 ~7d 1M5 ~8O 1M6 ~8P 1M7 ~7d 1M8 ~8P o 1 1M9 ~7d\nO 8N a 9 11W ~59 1M1 5a 1M2 ~59 1M3 ~7d 1M4 ~7d 1M5 ~8O 1M6 ~8P 1M7 ~7d 1M8 ~8P o 1 1M9 ~7d\nO 8N a 9 11W ~59 1M1 5a 1M2 ~59 1M3 ~7d 1M4 ~7d 1M5 ~8O 1M6 ~8P 1M7 ~7d 1M8 ~8P o 1 1M9 ~7d\nO 8N a 9 11W ~59 1M1 5a 1M2 ~59 1M3 ~7d 1M4 ~7d 1M5 ~8O 1M6 ~8P 1M7 ~7d 1M8 ~8P o 1 1M9 ~7d\nO 8N a 9 11W ~59 1M1 5a 1M2 ~59 1M3 ~7d 1M4 ~7d 1M5 ~8O 1M6 ~8P 1M7 ~7d 1M8 ~8P o 1 1M9 ~7d\nO 8N a 9 11W ~59 1M1 5a 1M2 ~59 1M3 ~7d 1M4 ~7d 1M5 ~8O 1M6 ~8P 1M7 ~7d 1M8 ~8P o 1 1M9 ~7d\nO kA a 2 11W ~59 NL ~59\nO 8N a 9 11W ~59 1M1 43x 1M2 ~59 1M3 ~7d 1M4 ~7d 1M5 ~8O 1M6 ~8P 1M7 ~59 1M8 ~8P\nO 143 a 3 1ZO ~bb 1ZP ~bb 1ZQ ~5j\nO 143 a 3 1ZO ~bb 1ZP ~bb 1ZQ ~5j\nO 143 a 3 1ZO ~bb 1ZP ~bb 1ZQ ~5j\nO 143 a 3 1ZO ~bb 1ZP ~bb 1ZQ ~5j\nO 143 a 3 1ZO ~bb 1ZP ~bb 1ZQ ~5j\nO 143 a 3 1ZO ~bb 1ZP ~bb 1ZQ ~5j\nO 143 a 3 1ZO ~bb 1ZP ~bb 1ZQ ~5j\nO 143 a 3 1ZO ~bb 1ZP ~bb 1ZQ ~5j\nO 143 a 3 1ZO ~bb 1ZP ~bb 1ZQ ~5j\nO 7c C o 3f S 3f\nO 7c C o 3f S 3f\nO 7c C o 3f S 3f\nO 7c C o 3f S 3f\nO 7c C ^ S A"

end CommandLine.Objects.Data

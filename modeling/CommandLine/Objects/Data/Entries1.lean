/-!
# Entries of the object world, part 1

The entries numbered 0 to 10237, one per line.
-/

namespace CommandLine.Objects.Data

/-- Entries 0 to 10237. -/
def entriesText1 : String :=
  "M 58 N 0 a v 1 ~59 2 ~59 3 ~59 4 43x 5 43y 6 ~59 7 ~59 8 ~9J 9 ~8O a ~8O b ~5j c ~5j d ~5j e ~5j f ~5j g ~5j h ~5j i ~5j j ~5j k ~5j l 143 m 43z n 43A o 43B p 43C q 43D r 43E s 43F t 43G u 43H v 11f\nM 58 N w a d 1 ~59 2 ~59 3 ~59 4 5a 5 43w x 38l y 3WC z 3WH A 3WI B 3WG C 3WD D 3WE E 3WF\nM 58 N F a 23 1 ~59 2 ~7d 3 ~59 4 5a 5 43v G 3Pk H ~5j I ~5j J ~5j K 3Pl L 3Pm M 3Pn N 3Po O 3Pp P 3Pq Q 3Pr R 3Ps S 3Pt T 3Pu U 3Pv V 3Pw W 3Px X 3Py Y 3Pz Z 3PA 10 3PB 11 3PC 12 3PD 13 3PE 14 3PF 15 3PG 16 3PH 17 3PI 18 3PJ 19 3PK 1a 3PL 1b 3PM 1c 3PN 1d 3PO 1e 3PP 1f 3PQ 1g 3PR 1h 3PS 1i 3PT 1j 3PU 1k 3PV 1l 3PW 1m 3PX 1n 3PY 1o 3PZ 1p 3Q0 1q 3Q1 1r 3Q2 1s 3Q3 1t 3Q4 1u 3Q5 1v 3Q6 1w 3Q7 1x 3Q8 1y 3Q9 1z 3Qa 1A 3Qb 1B 3Qc 1C 3Qd 1D 3Qe 1E 3Qf 1F 3Qg 1G 3Qh 1H 3Qi 1I 3Qj 1J 3Qk 1K 3Ql 1L 3Qm 1M 3Qn 1N 3Qo 1O 3Qp 1P 3Qq 1Q 3Qr 1R 3Qs 1S 3Qt 1T 3Qu 1U 3Qv 1V 3Qw 1W 3Qx 1X 3Qy 1Y 3Qz 1Z 3QA 20 3QB 21 3QC 22 3QD 23 3QE 24 3QF 25 3QG 26 3QH 27 3QI 28 3QJ 29 3QK 2a 3QL 2b 3QM 2c 3QN 2d 3QO 2e 3QP 2f 3QQ 2g 3QR 2h 3QS 2i 3QT 2j 3QU 2k 3QV 2l 3QW 2m 3QX 2n 3QY 2o 3QZ 2p 3R0 2q 3R1 2r 3R2 2s 3R3 2t 3R4 2u 3R5 2v 3R6 2w 3R7 2x 3R8 2y 3R9 2z 3Ra 2A 3Rb 2B 3Rc 2C 3Rd 2D 3Re\nM 58 N 2E a 9 1 ~59 2 ~59 3 ~59 4 5a 5 43u 2F 1kt 2G 3Nk 2H 1ks 2I 3Nl\nM 58 N 2J a f 1 ~59 2 ~59 3 ~59 4 5a 5 43t 2K 34N 2L ~5j 2M ~5j 2N ~5j 2O ~5j 2P 34O 2Q ~5j 2R ~5j 2S ~5j 2T ~5j\nM 58 N 2U a 7 1 ~59 2 ~7d 3 ~59 4 5a 5 43s 2V 3G1 2W 3G2\nM 58 N 2X a I 1 ~59 2 ~7d 3 ~59 4 5a 5 43r 2Y 3Ba 2Z 3Bb 30 15b 31 3Bc 32 3Bd 33 3Be 34 3Bf 35 3bv 36 3bE 37 3Bg 38 3Bh 39 3Bi 3a 3Bj 3b 3Bk 3c 3Bl 3d 3Bm 3e 3Bn 3f 3Bo 3g 3Bp 3h 3Bq 3i 3Br 3j 3Bs 3k 3Bt 3l 3Bu 3m 3Bv 3n 3Bw 3o 3Bx 3p 3By 3q 3Bz 3r 3BA 3s 3BB 3t 3BC 3u 3BD 3v 3BE 3w 3BF 3x 3BG 3y 3BH 3z 3BI 3A 3BJ\nM 58 N 3B a c 1 ~59 2 ~59 3 ~59 4 5a 5 43c 3C 3zx 3D RI 3E KQ 3F Qp 3G 43d 3H 43e 3I Jp\nM 58 N 3J a 11 1 ~59 2 ~59 3 ~59 4 d6 5 40Z 6 ~59 8 ~9J 3K hS 3L KP 3M 4v 3N Aj 3O WY O 9I a ~8O 3P 410 3Q 411 3R 412 3S 413 3T 414 3U 415 3V 416 3W 417 3X 418 3Y 419 3Z 41a 40 41b 41 3Hm 42 41c 43 41d 44 41e 45 WI 46 WL 47 WM 48 WN 49 2g9 4a Th 4b T7 4c T6 4d P1 4e P0 4f OZ 4g zP 4h Ph 4i Sq 4j Pg 4k zO 4l zQ 4m zN 4n SZ 4o 41f 4p 41g 4q SV 1p Rk 4r SL 4s zM 4t Rb 4u RD 4v Rj 4w Ra 4x zL 4y Sp 4z So 4A SA\nM 58 N 4B a g 1 ~59 2 ~7d 3 ~59 4 40X 5 40Y 6 ~59 7 ~59 8 ~9J 4C ~9J 4D ~9J 4E ~bb 4F ~bb 4G ~9J 4H ~9J 4I ~bb 4J ~bb\nM 58 N 4K a d 1 ~59 2 ~59 3 ~59 4 40V 5 40W 6 ~59 7 ~59 8 ~9J 4L 2l 3M 4v 4M ~5j 4N 2s5 4O 35p\nM 58 N 4P a 9 1 ~59 2 ~59 3 ~59 4 5a 5 40U 4Q 3sE 4R 3sB 4S 3sC 4T 3sD\nM 58 N 4U a m 1 ~59 2 ~59 3 ~59 4 5a 5 40K 4V 3ri 4W 3rh 4X 3rj 4Y 3rm 4Z 3rk 50 3rl 51 3rn 52 3ro 53 40L 54 40M 55 ~59 56 ~9J 57 ~5j 58 ~5j 59 ~5j 5a ~5j 5b 3rg\nM 58 N 5c a J 1 ~59 2 ~59 3 ~59 4 5a 5 40A 5d 3n9 5e 3na 5f 3nr 5g 3ns 5h 40B 5i 40C 5j 3n8 5k 3qI 5l 40D 5m 40E 5n 3n7 5o 3n4 5p 3n5 5q 3n6 5r 40F 5s 40G 5t 40H 5u 40I 5v 40J 5w 3mZ 5x 3mY 5y 3qH 5z 3n0 5A 3pa 5B 3oy 5C ~9J 5D ~5j 5E ~5j 5F ~5j 5G ~5j 55 ~59 5H ~5j 5I ~5j 5J ~5j 5K ~5j 5L ~5j 5M ~5j 5N ~5j 5O ~5j 5P 3n1\nM 58 N 5Q a f 1 ~59 2 ~59 3 ~59 4 5a 5 40z 5R 11g 5S 11h 5T 11i 5U 11j 5V 11l 5W 11k 5X ~5j 5Y ~5j 5Z ~Kw 60 ~11k\nM 58 N 61 a I 1 ~59 2 ~59 3 ~59 4 5a 5 40y 62 3jD 63 3jE 64 3jF 65 1kp 4R 3jG 66 3jH 67 3jI 68 3jJ 69 3jK 6a 3jL 6b 3jM 6c 3jN 6d 3jO 6e 3jP 6f 3jQ 6g 3jR 6h 3jS 6i 3jT 6j 3jU 6k 3jV 6l ~3jG 6m ~8P 6n ~8P 6o ~3jG 6p ~3jG 6q ~5j 6r ~5j 6s ~5j 6t ~5j 6u ~59 6v ~59 6w ~59 6x ~59 6y ~59 6z ~59 6A ~59 6B ~59 55 ~59 6C ~59\nM 58 N 6D a b 1 ~59 2 ~7d 3 ~59 4 5a 5 40x 6E nk 6F nT 6G nh 6H nj 6I nL 6J nM\nM 58 N 6K a Y 1 ~59 2 ~59 3 ~59 4 d6 5 3ZB 8 ~9J 6L 3ZC 6M I 6N L 6O M 6P i 6Q 3ZD 6R 3ZE 6S ~9J 6T ~9J 6U 3ZF 6V 3ZG 6W 3ZH 6X 3ZI 6Y 3ZJ 6Z 3ZK 70 3ZL 71 3ZM 72 3ZN 73 3ZO 74 b1 75 3ZP 76 8N 77 2Rl 78 3ZQ 79 3ZR 7a 2Rj 7b 3ZS 7c 3ZT 7d 3ZU 7e 3ZV 7f 3ZW 7g 5a 7h d6 7i 3ZX 7j 2Rk 7k 3ZY 7l 2Rm 7m 3ZZ 7n ~59 7o ~59 7p 400 7q ~5l 7r 401 7s 402 7t 403 7u 404 7v 30K 7w 405 7x 406 7y 407 7z 408 7A m 3M 4v 6 ~59\nM 58 N 7B a 1f 1 ~59 2 ~59 3 ~59 4 d6 5 3YX 6 ~59 8 ~9J 7C h 7A m 7D n 3M 4v 6N L 7E 2U 7F ~8P 7G 3f 7H ~59 7I ~59 7J ~bb 7K ~ns 7L ~bb 7M ~bb 7N ~bb 7O 3YY 7P 3YZ 7Q 30J 7R d9 7S d8 7T 3Z0 7U 3Z1 7V 3Z2 7W 3Z3 7X 3Z4 7Y 3Z5 7Z 3Z6 80 3Z7 81 dl 82 ~db 83 ~5j 84 ~59 85 ~59 86 ~8O 87 ~8O 88 ~8O 89 ~8O 8a ~8O 8b 2Rn 8c 2Rp 8d 3Z8 8e 3Z9 8f 3Za 8g 3Zb 8h 2Zz 8i 3Zc 8j 3Zd 8k 3Ze 8l 3Zf 8m 3Zg 8n 3Zh 8o 2Ro 8p ~5l 8q 2Rq 8r 2Z3 8s e1 8t kC 8u kB 8v kA 8w 2Z6 8x 2Z7 8y 3Zi 8z 2Z8 8A 2Z8 8B 2Z4 8C 2Z5 8D 3Zj 8E 3Zk 8F 3Zl 7y 3Zm\nM 58 N 8G a 9 1 ~59 2 ~59 3 ~59 4 5a 5 3YW 8H 1kB 8I 38x 8J 1CZ 8K IO\nM 58 N 8L a u 1 ~59 2 ~59 3 ~59 4 5a 5 3Yt 8M 3Yu 8N 34E 8O 34F 8P 3Yv 8Q 1Ac 8R 3Yw 8S 3Yx 8T 34H 8U 34I 8V 34J 8W 34K 8X 34L 8Y 34M 8Z 34P 90 34Q 91 34R 92 34S 93 34T 94 34U 95 3Yy 96 3Yz 97 3YA 98 ~i2 99 ~WI 9a 3YB\nM 58 N 9b a e 1 ~59 2 ~59 3 ~59 4 5a 5 3Ys 9c 21s 9d 34o 9e 21t 9f 34n 9g 34p 9h 34q 9i 34s 9j 34r 9k ~59\nM 58 N 7A a o 1 ~59 2 ~59 3 ~59 4 5a 5 3Y9 9l 3Ya 9m 3Yb 9n 3Yc 9o 3Yd 9p 3Ye 9q 3Yf 9r 3Yg 9s 3Yh 9t 3Yi 9u 3Yj 9v 3Yk 9w 3Yl 9x 3Ym 9y 3Yn 9z 3Yo 9A 3Yp 9B 3Yq 9C 3Yr 9D ~59\nM 58 N 4L a o 1 ~59 2 ~59 3 ~59 4 5a 5 3Y8 9E 15a 9F 2L0 9G 2KU 9H ~5j 9I 2KT 9J 2KS 9K hW 9L 2KZ 9M hU 9N 18t 9O 160 9P 2KV 9Q 1fw 9R 2KW 9S 2KX 9T 2KY 9U 18s 9V 1yK 9W 15c\nM 58 N 9X a a 1 ~59 2 ~59 3 ~59 4 5a 5 3Y7 9Y 2yv 9Z 2yw a0 2yU a1 2yj a2 2yx\nM 58 N a3 a 1k 1 ~59 2 ~59 3 ~59 4 5a 5 3Y6 a4 2xT a5 2xE a6 2xt a7 2xu a8 2xv a9 2xw aa 2xx ab 2xy ac 2xz ad 2xA ae 2xB af 2xC ag ~5j ah ~5j ai ~5j aj ~5j ak ~5j al ~5j am ~5j an ~5j 5b 2xD ao ~5j ap ~5j aq ~5j ar ~5j as ~5j at ~5j au ~5j av ~5j aw ~5j ax ~5j ay ~5j az ~5j aA ~5j aB ~5j aC ~5j aD ~5j aE ~5j aF ~5j aG ~5j aH ~5j aI ~5j aJ ~5j aK ~5j aL ~5j aM ~5j aN ~5j aO ~5j aP ~5j aQ ~5j aR ~5j aS ~5j aT ~5j aU ~5j aV ~5j aW ~5j aX ~5j aY ~5j aZ ~5j b0 ~5j b1 ~5j b2 ~5j b3 ~5j b4 ~5j b5 ~5j b6 ~5j b7 ~5j b8 ~5j b9 ~5j ba ~5j bb ~5j bc ~5j bd ~5j be ~5j bf ~5j bg ~5j bh ~5j\nM 58 N bi a D 1 ~59 2 ~7d 3 ~59 4 5a 5 3Y5 bj 2rV bk 2rZ bl 2s0 bm ~5j bn ~5j bo ~5j bp ~5j bq ~5j br ~5j bs ~5j bt ~5j bu ~5j bv ~5j bw ~5j bx ~5j by ~5j bz ~5j bA ~5j bB ~5j bC ~5j bD ~5j bE ~5j bF ~5j bG ~5j bH ~5j bI ~5j bJ ~5j bK ~5j bL ~5j bM ~5j bN ~5j bO 2rW bP 2rX bQ 2rY\nM 58 N bR a e 1 ~59 2 ~59 3 ~59 4 3Y1 5 3Y2 6 ~59 7 ~59 8 ~9J bS 3Y3 bT 3Y4 bU ~oB bV ~oB bW ~oB bX 33h\nM 58 N bY a 8 1 ~59 2 ~7d 3 ~59 4 5a 5 3XJ bZ 3XK c0 3XL c1 ~9J\nM 58 N c2 a 7 1 ~59 2 ~59 3 ~59 4 5a 5 3XH c3 2km c4 3XI\nM 58 N c5 a Z 1 ~59 2 ~59 3 ~59 4 5a 5 3XF c6 2jx c7 2jS c8 2jW c9 2jT ca 2jy cb 2jz cc 20G cd 2jB ce 2jO cf 1kC cg 2jI ch 2jD ci 2jP K 2jH cj 2jJ ck 2jL cl 2jA cm 2jE cn 2jF co 2jG cp 2jN cq 2jw cr 2jC cs 2jQ ct 2jK cu 2k1 cv 2kc cw 2k7 cx 2k8 cy 2k4 cz 2kd cA 2k6 cB 2k5 cC 2kb cD 2k2 cE 2ke cF 2k9 cG 2jR cH 2k3 cI 2jV cJ 2jX cK 2jU cL 2jM cM 2ka cN 2js cO 2jt cP 2jq cQ 2jr cR 2jv cS 2ju cT 3XG cU 2jY cV 2jZ cW 1JT cX 1D1 cY 2k0\nM 58 N cZ a f 1 ~59 2 ~59 3 ~59 4 5a 5 3XE d0 2aj d1 2ak d2 2al d3 2am d4 2ah d5 2ai d6 2a0 d7 2a1 d8 2a2 d9 2a3\nM 58 N da a 6 1 ~59 2 ~59 3 ~59 4 5a 5 3XD db 1h4\nM 58 N dc a 7 1 ~59 2 ~59 3 ~59 4 5a 5 3XC dd 21v de 21u\nM 58 N df a 6 1 ~59 2 ~59 3 ~59 4 5a 5 3XB dg 1e3\nM 58 N dh a 8 1 ~59 2 ~7d 3 ~59 4 5a 5 3Xr di 20I dj 3Xs dk 3Xt\nM 58 N dl a 19 1 ~59 2 ~59 3 ~59 4 5a 5 3Xk dm 1vF dn 1vG do 1vH dp 1vI dq 3Xl dr 1vK ds 1vL dt 3Xm du 1vN dv 1vO dw 1vP dx 1vQ dy 3Xn dz 3Xo dA 3Xp dB 1vU dC 1vV dD 3Xq dE ~5j dF ~5j dG ~5j dH ~5j dI ~5j dJ ~5j dK ~5j dL ~5j dM ~5j dN ~5j dO ~5j dP ~5j dQ ~5j dR ~5j dS ~5j dT ~5j dU ~5j dV ~5j dW ~5j dX ~5j dY ~5j dZ ~5j e0 ~5j e1 ~5j e2 ~5j e3 ~5j e4 ~5j e5 ~5j e6 ~5j e7 ~5j e8 ~5j e9 ~5j ea ~5j eb ~5j ec ~5j ed ~5j ee ~5j ef ~5j eg ~5j eh ~5j ei ~5j ej ~5j ek ~5j el ~5j em ~5j en 1wz eo 1wA ep 43M\nM 58 N eq a b 1 ~59 2 ~59 3 ~59 4 d6 5 3Xi 6 ~59 8 ~9J 3M 4v er 3Is es 3Il et 3Ig\nM 58 N eu a 5r 1 ~59 2 ~59 3 ~59 4 5a 5 3Xf ev 1sm ew 1sn ex 1so ey 1sp ez 1sq eA 1sr eB 1ss eC 1st eD 1su eE 1sv eF 3Xg eG 1sx eH 1sy eI 1sz eJ 1sA eK 1sB eL 1sC eM 1sD eN 1sE eO 3Xh eP 1sG eQ 1sH eR 1sI eS 1sJ eT 1sK eU 1sL eV 1sM eW 1sN eX 1sO eY 1sP eZ 1sQ f0 1sR f1 1sS f2 1sS f3 ~8P f4 ~Kw f5 ~5j f6 ~5j f7 ~5j f8 ~5j f9 ~5j fa ~5j fb ~5j fc ~5j fd ~5j fe ~5j ff ~5j fg ~5j fh ~5j fi ~5j fj ~5j fk ~5j fl ~5j fm ~5j fn ~5j fo ~5j fp ~5j fq ~5j fr ~5j fs ~5j ft ~5j fu ~5j fv ~5j fw ~5j fx ~5j fy ~5j fz ~5j fA ~5j fB ~5j fC ~5j fD ~5j fE ~5j fF ~5j fG ~5j fH ~5j fI ~5j fJ ~5j fK ~5j fL ~5j fM ~5j fN ~5j fO ~5j fP ~5j fQ ~5j fR ~5j fS ~5j fT ~5j fU ~5j fV ~5j fW ~5j fX ~5j fY ~5j fZ ~5j g0 ~5j g1 ~5j g2 ~5j g3 ~5j g4 ~5j g5 ~5j g6 ~5j g7 ~5j g8 ~5j g9 ~5j ga ~5j gb ~5j gc ~5j gd ~5j ge ~5j gf ~5j gg ~5j gh ~5j gi ~5j gj ~5j gk ~5j gl ~5j gm ~5j gn ~5j go ~5j gp ~5j gq ~5j gr ~5j gs ~5j gt ~5j gu ~5j gv ~5j gw ~5j gx ~5j gy ~5j gz ~5j gA ~5j gB ~5j gC ~5j gD ~5j gE ~5j gF ~5j gG ~5j gH ~5j gI ~5j gJ ~5j gK ~5j gL ~5j gM ~5j gN ~5j gO ~5j gP ~5j gQ ~5j gR ~5j gS ~5j gT ~5j gU ~5j gV ~5j gW ~5j gX ~5j gY ~5j gZ ~5j h0 ~5j h1 ~5j h2 ~5j h3 ~5j h4 ~5j h5 ~5j h6 ~5j h7 ~5j h8 ~5j h9 ~5j ha ~5j hb ~5j hc ~5j hd ~5j he ~5j hf ~5j hg ~5j hh ~5j hi ~5j hj ~5j hk ~5j hl ~5j hm ~5j hn ~5j ho ~5j hp ~5j hq ~5j hr ~5j hs ~5j ht ~5j hu ~5j hv ~5j hw ~5j hx ~5j hy ~5j hz ~5j hA ~5j hB ~5j hC ~5j hD ~5j hE ~5j hF ~5j hG ~5j hH ~5j hI ~5j hJ ~5j hK ~5j hL ~5j hM ~5j hN ~5j hO ~5j hP ~5j hQ ~5j hR ~5j hS ~5j hT ~5j hU ~5j hV ~5j hW ~5j hX ~5j hY ~5j hZ ~5j i0 ~5j i1 ~5j i2 ~5j i3 ~5j i4 ~5j i5 ~5j i6 ~5j i7 ~5j i8 ~5j i9 ~5j ia ~5j ib ~5j ic ~5j id ~5j ie ~5j if ~5j ig ~5j ih ~5j ii ~5j ij ~5j ik ~5j il ~5j im ~5j in ~5j io ~5j ip ~5j iq ~5j ir ~5j is ~5j it ~5j iu ~5j iv ~5j iw ~5j ix ~5j iy ~5j iz ~5j iA ~5j iB ~5j iC ~5j iD ~5j iE ~5j iF ~5j iG ~5j iH ~5j iI ~5j iJ ~5j iK ~5j iL ~5j iM ~5j iN ~5j iO ~5j iP ~5j iQ ~5j iR ~5j iS ~5j iT ~5j iU ~5j iV ~5j iW ~5j iX ~5j iY ~5j iZ ~5j j0 ~5j j1 ~5j j2 ~5j j3 ~5j j4 ~5j j5 ~5j j6 ~5j j7 ~5j j8 ~5j j9 ~5j ja ~5j jb ~5j jc ~5j jd ~5j je ~5j jf ~5j jg ~5j jh ~5j ji ~5j jj ~5j jk ~5j jl ~5j jm ~5j jn ~5j jo ~5j jp ~5j jq ~5j jr ~5j js ~5j jt ~5j ju ~5j jv ~5j jw ~5j jx ~5j jy ~5j jz ~5j jA ~5j jB ~5j jC ~5j jD ~5j jE ~5j jF ~5j jG ~5j jH ~5j jI ~5j jJ ~5j jK ~5j jL ~5j jM ~5j jN ~5j jO ~5j jP ~5j jQ ~5j\nM 58 N jR a g 1 ~59 2 ~7d 3 ~59 4 5a 5 3X8 jS 3X9 jT 3Xa jU 3Xb jV 3Xc jW 3Xd jX 3Xe jY ~5j jZ ~5j k0 ~5j k1 ~5j k2 ~59\nM 58 N k3 a 17 1 ~59 2 ~59 3 ~59 4 5a 5 3X7 k4 1pt k5 1pu k6 1pv k7 1pw k8 1px k9 1py ka 1pz kb 1pA kc 1pB kd 1pC ke 1pr kf 1ps kg 1pD kh ~5j ki ~5j kj ~5j kk ~5j kl ~5j km ~5j kn ~5j ko ~5j kp ~5j kq ~5j kr ~5j ks ~5j kt ~5j ku ~5j kv ~5j kw ~5j kx ~5j ky ~5j kz ~5j kA ~5j kB ~5j kC ~5j kD ~5j kE ~5j kF ~5j kG ~5j kH ~5j kI ~5j kJ ~5j kK ~5j kL ~5j kM ~5j kN ~5j kO ~5j kP ~5j kQ ~5j kR ~5j kS ~5j kT ~5j kU ~5j kV ~5j kW ~5j kX ~5j kY ~5j kZ ~5j l0 ~5j l1 ~5j l2 ~5j l3 ~5j l4 ~5j l5 ~5j\nM 58 N l6 a 6 1 ~59 2 ~59 3 ~59 4 5a 5 3X6 l7 1l8\nM 58 N l8 a 7 1 ~59 2 ~59 3 ~59 4 5a 5 3X3 l9 3X4 la 3X5\nM 58 N lb a e 1 ~59 2 ~59 3 ~59 4 5a 5 3X2 lc 1iR ld 1iK le 1iL lf 1iM lg 1iN lh 1iO li 1iP lj ge eX 1iQ\nM 58 N 6M a o 1 ~59 2 ~59 3 ~59 4 5a 5 3WV lk 17B ll 3WW lm 17C ln 3WX lo 3WY lp 3WZ lq 3X0 lr 17E ls 17F lt 3X1 lu 18e lv 17D lw 181 lx 17Y ly 17H lz 18i eX 17G lA 182 lB ~17I\nM 58 N lC a 6 1 ~59 2 ~59 3 ~59 4 5a 5 3WU lD KS\nM 58 N lE a 7 1 ~59 2 ~7d 3 ~59 4 5a 5 3WT lF FF lG ~5j\nM 58 N 6N a b 1 ~59 2 ~59 3 ~59 4 5a 5 3WS lH F5 lI F6 lJ Fb lK ~8O lL ~9J lM ~59\nM 58 N 6O a d 1 ~59 2 ~59 3 ~59 4 5a 5 3WR lN z5 lO zb lP z6 lQ z8 lR z7 lS z7 lT za lU z9\nM 58 N lV a d 1 ~59 2 ~7d 3 ~59 4 3WP 5 3WQ 6 ~59 7 ~59 8 ~9J lR z7 3N Aj a ~8O lW zd lX zc\nM 58 N lY a m 1 ~59 2 ~59 3 ~59 4 d6 5 3Wz 6 ~59 8 ~9J 3L KP lZ 3WA m0 3WB m1 2Sa x 38l y 3WC C 3WD D 3WE E 3WF B 3WG z 3WH A 3WI 3K hS m2 3WJ m3 QU\nM 58 N m4 a Q 1 ~59 2 ~59 3 ~59 4 3UM 5 3UN 6 ~59 7 ~59 8 ~9J 55 ~59 a ~8O 7G 39 m5 3n m6 4v m7 4P m8 2h3 m9 2h4 ma ~59 mb ~59 mc ~59 md ~59 me ~59 mf ~59 mg ~59 mh 2By mi 3UO mj 3UP mk 3UQ ml 3UR mm 3US mn 3UT mo 3UU 5P 3UV mp 3UW mq 2Bx mr 3UX ms 3UY mt 3UZ mu 3V0 mv 3V1 mw 3V2 mx 3V3 my 3V4 mz 3V5 mA 3V6 mB 3V7 mC 3V8 mD 3V9 mE 3Va mF 2BK mG 3Vb mH 3Vc mI 2BJ\nM 58 N mJ a 9 1 ~59 2 ~59 3 ~59 4 5a 5 3UK mK 3UL mL 1Mu mJ 1Mu mM ~59\nM 58 N mN a 2U 1 ~59 2 ~59 3 ~59 4 3Pi 5 3Pj 6 ~59 7 ~59 8 ~9J 3M 4v G 3Pk H ~5j I ~5j J ~5j K 3Pl L 3Pm M 3Pn N 3Po O 3Pp P 3Pq Q 3Pr R 3Ps S 3Pt T 3Pu U 3Pv V 3Pw W 3Px X 3Py Y 3Pz Z 3PA 10 3PB 11 3PC 12 3PD 13 3PE 14 3PF 15 3PG 16 3PH 17 3PI 18 3PJ 19 3PK 1a 3PL 1b 3PM 1c 3PN 1d 3PO 1e 3PP 1f 3PQ 1g 3PR 1h 3PS 1i 3PT 1j 3PU 1k 3PV 1l 3PW 1m 3PX 1n 3PY 1o 3PZ 1p 3Q0 1q 3Q1 1r 3Q2 1s 3Q3 1t 3Q4 1u 3Q5 1v 3Q6 1w 3Q7 1x 3Q8 1y 3Q9 1z 3Qa 1A 3Qb 1B 3Qc 1C 3Qd 1D 3Qe 1E 3Qf 1F 3Qg 1G 3Qh 1H 3Qi 1I 3Qj 1J 3Qk 1K 3Ql 1L 3Qm 1M 3Qn 1N 3Qo 1O 3Qp 1P 3Qq 1Q 3Qr 1R 3Qs 1S 3Qt 1T 3Qu 1U 3Qv 1V 3Qw 1W 3Qx 1X 3Qy 1Y 3Qz 1Z 3QA 20 3QB 21 3QC 22 3QD 23 3QE 24 3QF 25 3QG 26 3QH 27 3QI 28 3QJ 29 3QK 2a 3QL 2b 3QM 2c 3QN 2d 3QO 2e 3QP 2f 3QQ 2g 3QR 2h 3QS 2i 3QT 2j 3QU 2k 3QV 2l 3QW 2m 3QX 2n 3QY 2o 3QZ 2p 3R0 2q 3R1 2r 3R2 2s 3R3 2t 3R4 2u 3R5 2v 3R6 2w 3R7 2x 3R8 2y 3R9 2z 3Ra 2A 3Rb 2B 3Rc 2C 3Rd 2D 3Re mO 2Rr mP 3tv mQ 1qg mR 3aI mS Fq mT 3Rf mU 1Pv d0 3Rg mV 3Rh mW 3Ri mX 3Rj mY 3Rk mZ 3Rl n0 3Rm n1 3Rn n2 3Ro n3 3Rp n4 3Rq n5 2QW n6 3Rr n7 3Rs n8 3Rt n9 3Ru na 3Rv nb 3Rw nc 3Rx nd 3Ry ne 3Rz nf 3RA ng ~9J nh ~9J ni ~9J nj 3RB nk 3RC nl 3RD nm 3RE nn 3RF no 3RG np 3RH nq 3RI nr 3RJ ns ~59 nt 3RK nu ~bb nv ~bb nw ~bb nx 3RL ny 3RM nz 3RN\nM 58 N nA a a 1 ~59 2 ~59 3 ~59 4 5a 5 3Pc 2Y 3Pd nB 3Pe 2Z 3Pf nC 3Pg nD 3Ph\nM 58 N nE a X 1 ~59 2 ~59 3 ~59 4 3OL 5 3OM 6 ~59 7 ~59 8 ~9J nF 3n nG 4t nH V a ~8O nI ~bb nJ 3ON nK 3gt nL 3OO nM 3OP nN 3OQ nO ~db nP ~db nQ 3OR nR 3OS nS ~59 nT ~59 nU ~59 nV ~db nW ~db nX ~9J nY ~9J nZ 3OT o0 3OU o1 3OV o2 3OW o3 3OX o4 3OY o5 3OZ o6 3P0 o7 ~7d o8 ~7d o9 ~db oa ~db ob 3P1 oc 3P2 od 3P3 oe ~db of ~7d og ~7d oh ~7d oi 3P4 oj 3P5 ok ~5j ol ~5j 31 3P6 32 3P7 om 3P8 on 3gf oo 3P9 nz 3Pa op 3Pb\nM 58 N oq a q 1 ~59 2 ~59 3 ~59 4 3Nz 5 3NA 6 ~59 7 ~59 8 ~9J or 1L 3M 4v os 39 ot ~5j ou ~5j ov ~5j a ~8O ow ~5j ox 3NB oy 3NC oz 3ND oA 3NE oB 3NF oC 3NG oD 3NH oE 3NI oF 3NJ op 3NK\nM 58 N nH a j 1 ~59 2 ~59 3 ~59 4 5a 5 3Nm oG 3Nn oH 3No oI 3gv oJ 3gu oK 3Np oL 3Nq oM 3Nr oN 3Ns oO 3Nt oP 3Nu oQ 21f oR 21g 5b 3Nv oS 3Nw\nM 58 N oT a e 1 ~59 2 ~59 3 ~59 4 3Ni 5 3Nj 6 ~59 7 ~59 8 ~9J 2G 3Nk 2F 1kt 2I 3Nl 2H 1ks oT 1kt oU 3Nk\nM 58 N oV a 2x 1 ~59 2 ~59 3 ~59 4 5a 5 3Gz oW 3GA 7v 2v8 cl 2jp oX 3GB oY 3GC oZ 3GD p0 3GE p1 3GF p2 3GG p3 3GH jS 3GI p4 3GJ p5 3GK p6 3GL p7 3GM p8 3GN p9 3GO pa 3GP pb 16G pc 3GQ pd 3GR pe 1ju pf 3GS pg 3GT ph 3GU pi 3GV pj 3GW pk 3GX pl 3GY pm 3GZ pn 3H0 po 3H1 pp 3H2 pq 3H3 pr 3H4 ps 3H5 cL 3H6 pt 3H7 pu 1k8 pv 3H8 pw 3H9 px 3Ha py 3Hb pz 3Hc pA ~7d nf ~WY pB ~WZ pC ~8P pD ~8P pE 8P pF 3Hd pG 3He pH db pI b0 pJ 3DQ pK 9J pL 3Hf pM 3Hg pN 17I pO i2 pP 9F pQ 5j pR 8O pS 3Hh pT 5l pU 3Hi pV 3Hj pW ns nj 3Hk pX bz pY 59 pZ 3Hl q0 bb q1 5k q2 3Hm q3 ~8P q4 8s q5 3Hn q6 8r q7 3Ho q8 3Hp q9 3Hq qa 3jW qb 3Hr qc 3mQ qd 3Hs qe 3Ht qf fo qg 3cB qh 3Hu qi 3Hv qj 1sO qk 3Hw ql 17G qm 3Hx qn 3Hy qo ra qp 3cC qq 3ga qr 152 qs 37E qt 3Hz qu 3HA qv 3jZ qw 3HB qx 3HC qy 3HD qz 3HE qA 3HF qB 3HG qC 3HH qD 3HI qE 3HJ qF 3HK qG 37D 9J 2KS qH 3HL qI 3HM qJ 3HN qK 3HO qL 3HP qM 3HQ qN 3HR qO 3HS qP 3HT qQ 1sR qR 3HU qS 3HV qT 3HW qU 2YW qV 3HX qW 3HY qX 3HZ qY 3I0 qZ 3I1 r0 3I2 r1 3I3 r2 3I4 r3 3I5 r4 3I6 r5 3I7 r6 3I8 r7 3I9 r8 1sO r9 1sO 9E 15a ra 3Ia lp 3Ib k2 3Ic rb 3Id rc 3Ie rd 3If\nM 58 N re a n 1 ~59 2 ~59 3 ~59 4 3FZ 5 3G0 6 ~59 7 ~59 8 ~9J a ~8O rf ~59 rg 15a 4L 2l os 39 4K a 2V 3G1 2W 3G2 rh ~5j ri ~5j rj ~5j rk 3G3 9E 3G4 rl 3G5 rm 3G6\nM 58 N rn a 13 1 ~59 2 ~59 3 ~59 4 3El 5 3Em 6 ~59 7 ~59 8 ~9J 3M 4v 5S 1m a3 2P ro 1kr a ~8O eX 152 rp 3En rq 3Eo rr ~5j rs ~5j rt ~8O ru 3Ep rv 3Eq rw 3Er rx 3Es ry 3Et rz 3Eu rA ~5j rB ~5j rC ~5j rD ~5j rE ~5j rF ~5j rG ~5j rH 3Ev rI 3Ew rJ 3Ex rK 3Ey rL 3Ez rM 3EA rN 3EB rO 3EC rP 3ED rQ 3EE rR 3EF rS 3EG rT 3EH rU 3EI rV 3EJ rW 3EK rX 3EL rY 3EM rZ 3EN s0 3EO s1 3EP s2 3EQ s3 3ER rn 3ES s4 3ET s5 ~5j s6 ~5j p9 3EU s7 3EV s8 ~5j s9 ~5j sa 3EW nz 3EX\nM 58 N sb a z 1 ~59 2 ~59 3 ~59 4 5a 5 3Ds sc 3Dt sd 3Du se 3Dv sf 3Dw sg 3Dx sh 3Dy si 3Dz sj 3DA sk 3DB sl 3DC sm 3DD sn 3DE so 3DF sp 3DG sq 3DH sr 3DI ss 3DJ st 3DK su 3DL sv 3DM sw 3DN sx 3DO sy 3DP sz ~17I sA ~17I sB ~17I sC ~17I sD ~3DQ sE ~17I sF ~3DQ\nM 58 N sG a e 1 ~59 2 ~59 3 ~59 4 3D5 5 3D6 6 ~59 7 ~59 8 ~9J sH 4s 3M 4v a ~8O sI ~59 sJ ~59 sK 3D7\nM 58 N sL a g 1 ~59 2 ~59 3 ~59 4 3CN 5 3CO 6 ~59 7 ~59 8 ~9J 3M 4v sM 4I sN 3B0 sO 3AY a ~8O sP 3CP sQ 3CQ sR 3CR\nM 58 N sS a 1u 1 ~59 2 ~59 3 ~59 4 d6 5 3B9 6 ~59 8 ~9J oV X 3M 4v 2Y 3Ba 2Z 3Bb 30 15b 31 3Bc 32 3Bd 33 3Be 34 3Bf 35 3bv 36 3bE 37 3Bg 38 3Bh 39 3Bi 3a 3Bj 3b 3Bk 3c 3Bl 3d 3Bm 3e 3Bn 3f 3Bo 3g 3Bp 3h 3Bq 3i 3Br 3j 3Bs 3k 3Bt 3l 3Bu 3m 3Bv 3n 3Bw 3o 3Bx 3p 3By 3q 3Bz 3r 3BA 3s 3BB 3t 3BC 3u 3BD 3v 3BE 3w 3BF 3x 3BG 3y 3BH 3z 3BI 3A 3BJ a ~8O sT ~db sU ~db sV ~db sW ~db sX ~db sY ~db sZ ~db t0 ~db t1 ~db t2 ~db t3 ~db t4 ~db t5 ~db t6 ~db t7 3BK t8 3bD t9 3cl ta 3BL tb 3c7 tc 3c6 td 3bW te 3bC tf 3BM tg 3BN 9E 3BO th 3BP ti 3BQ tj 3BR tk 3BS tl 3BT tm 3BU tn 3BV to 3BW tp 3BX tq 3BY tr 3BZ ts 3C0 tt 3C1 tu 3C2 tv 3C3 tw 3C4 tx 3C5 ty ~5j\nM 58 N tz a k 1 ~59 2 ~59 3 ~59 4 3AT 5 3AU 6 ~59 7 ~59 8 ~9J 0 0 m7 4P tA ~8O a ~8O tB ~5j tC ~5j tD 3AV tE 3AW tF 3AX sO 3AY tG 3AZ sN 3B0\nM 58 N tH a A 1 ~59 2 ~59 3 ~59 4 3zr 5 3zs tI ~8O 6 ~59 7 ~59 8 ~9J a ~8O tJ 8 m6 4v tK 1Wg tL 1kr tM 2F7 tN 2yf tO 2js tP 1D1 tQ 1Xf tR z8 3D RI 3E KQ tS 3zt tT 3zu tU 3zv tV 3zw 3F Qp 3I Jp tW HL 3C 3zx tX PS tY Ps tZ 1Mv u0 1Mw u1 3zy lY 16\nM 58 N 3J a z 1 ~59 2 ~7d 3 ~59 4 3zp 5 3zq 6 ~59 7 ~59 8 ~9J 4b T7 4c T6 4d P1 4e P0 4f OZ 4a Th 4g zP 4h Ph 4j Pg 4i Sq 4k zO 4l zQ 4q SV 4m zN 1p Rk 4r SL 4s zM 4x zL 4t Rb 4u RD 4v Rj 4w Ra 4y Sp 4A SA 4z So a ~8O 4n SZ\nM 58 N u2 a j 1 ~59 2 ~59 3 ~59 4 3zh 5 3zi 6 ~59 7 ~59 8 ~9J a ~8O u3 ~17I u4 ~17I u5 ~17I u6 3zj u7 3zk u8 1VC u9 3zl ua 3zm ub 3zn uc 3zo\nM 58 N ud a a 1 ~59 2 ~7d 3 ~59 4 3zf 5 3zg tI ~8O 6 ~59 7 ~59 8 ~9J ue 19\nM 58 N uf a t 1 ~59 2 ~59 3 ~59 4 3zb 5 3zc tI ~8O 6 ~59 7 ~59 8 ~9J rf ~59 ug 1a uh ~59 ui ~59 uj ~59 uk 3y8 qQ 1sR ul 3y9 um 3wT un 3yl uo 3wF up 3yj uq 3yh a ~bb ur 3zd us 3ze ut 1b uu 3xl uv 1c uw 3wE\nM 58 N ux a I 1 ~59 2 ~7d 3 ~59 4 3y4 5 3y5 6 ~59 7 ~59 8 ~9J rf ~59 tH 15 uy 2Q uz 4z 5T 4A uA 4J uh ~59 ui ~59 uj ~59 uB ~59 uC ~59 uD ~59 uE ~59 uF ~59 uG ~59 uH ~8O uI ~9J uJ 3y6 5b 3y7 uk 3y8 qQ 1sR ul 3y9 uK 3ya uL 3yb uM 3yc uN 3yd uO 3ye uP 3yf uQ 3yg uq 3yh uR 3yi up 3yj uS 3yk un 3yl uo 3wF um 3wT\nM 58 N uT a J 1 ~59 2 ~59 3 ~59 4 3x1 5 3x2 6 ~59 7 ~59 8 ~9J rf ~59 os 39 ug 1a uU 3k uV 2X uW 2X uX 2mi uz 4z uY 4Q 8J 1CZ uZ 2n 3M 4v v0 ZL v1 3x3 v2 ~8P v3 3x4 v4 3x5 v5 ~5j v6 ~5j v7 3x6 v8 3x7 v9 3x8 va 3x9 vb 3xa vc 3xb vd 3xc ve 3xd vf 3xe vg 3xf vh 3xg vi 3xh vj ~8P vk ~7d vl 3xi vm 3xj vn 3xk uu 3xl\nM 58 N vo a o 1 ~59 2 ~59 3 ~59 4 3wx 5 3wy 6 ~59 7 ~59 8 ~9J rf ~59 ug 1a uZ 2n uU 3k uz 4z uA 4J uY 4Q os 39 vp 3wz vq ~8P vr ~17Y v4 3wA va 3wB vs 3wC vt 3wD uw 3wE\nM 58 N vu a G 1 ~59 2 ~59 3 ~59 4 3uv 5 3uw 6 ~59 7 ~59 8 ~9J 4x zL vv Ps vw 1N 4L 2l uZ 2n os 39 nF 3n 3M 4v m7 4P a ~8O vx 9J vy ~59 vz ~5j 5b 3ux vA 3uy vB 3uz vC 3uA vD 3uB vE 3uC vF 3uD vG 3uE vH 3uF vI 3uG vJ 3uH vK ~5l vL 3uI vM 3uJ vN 3uK vO 3uL vP 3uM vQ 3uN vR 3uO vS 3uP vT 3uQ\nM 58 N vU a B 1 ~59 2 ~59 3 ~59 4 3tf 5 3tg 6 ~59 7 ~59 8 ~9J lY O os 39 3M 4v tJ 8 3D RI vV 1Rq vW WO 3N Aj a ~8O vX R2 vY QT vZ 3th w0 3ti w1 3tj w2 3tk w3 3tl mO 2Rr w4 3tm w5 3tn w6 3to w7 3tp w8 3tq w9 3tr wa ZC wb 3ts wc 3tt wd 3tu mP 3tv we 3tw\nM 58 N wf a d 1 ~59 2 ~7d 3 ~59 4 3sz 5 3sA 6 ~59 7 ~59 8 ~9J 4R 3sB 4S 3sC 4T 3sD 4Q 3sE a ~bb\nM 58 N wg a o 1 ~59 2 ~59 3 ~59 4 3sl 5 3sm 6 ~59 7 ~59 8 ~9J wh ~9J 5b 3sn eX 3sn a ~8O wg 3so wi ~9J wj 3sp wk 3sq wl ~9J wm 3sr wn 3ss wo 3st wp 3su wq 3sv wr 3sw ws 3sx\nM 58 N wt a r 1 ~59 2 ~59 3 ~59 4 3s7 5 3s8 6 ~59 7 ~59 8 ~9J a ~8O wh ~9J wu 3s9 wv 3sa ww 3sb wx 3sc wy 3sd wz ~5j wA 7c wB 3se wC 3sf wD 3sg wE 3sh wF ~9J wG ~9J wH ~9J wI 3si wJ 3sj wK 3sk\nM 58 N wL a w 1 ~59 2 ~59 3 ~59 4 3re 5 3rf 6 ~59 7 ~59 8 ~9J nF 3n 5b 3rg 55 ~59 4W 3rh 4V 3ri 4X 3rj 4Z 3rk 50 3rl 4Y 3rm 51 3rn 57 ~5j 58 ~5j 59 ~5j 5a ~5j wM 3ro 9V 1yK a ~8O 52 3rp wN 3rq wO 3rr wP 3rs wQ 3rt wR 3ru wS 3rv\nM 58 N wT a 1H 1 ~59 2 ~59 3 ~59 4 3qF 5 3qG tI ~8O 6 ~59 7 ~59 8 ~9J 7G 39 m6 4v wU 4J 55 ~59 5x 3mY 5w 3mZ 5z 3n0 5y 3qH wV 3oy wW ~59 5M ~5j 5N ~5j 5P 3n1 wX 1iK wY ~5j wZ ~5j x0 ~5j x1 ~5j x2 ~5j x3 3n2 x4 3n2 x5 ~9J x6 3n3 x7 3qI 5o 3n4 5p 3n5 5q 3n6 5n 3n7 5j 3n8 5d 3n9 5e 3na 5A 3pa x8 3qJ x9 3nb xa 3nc xb 3nd xc 3ne xd 3nf xe 3ng xf 3nh xg 3ni xh 3nj xi 3nk xj 3ne xk 3nf xl 3nl xm 3nm xn 3nn xo 3no xp 3np xq 3np xr 3nq 5f 3nr 5g 3ns 5C ~9J xs 3nt xt 3nu xu 3qK xv 3nv xw 3nw xx 3nx xy 3ny xz 3nz xA 3nA xB 3nB xC 3nC xD 3nD xE 3nf xF 3ne 5H ~5j 5I ~5j 5J ~5j 5K ~5j xG 3nE xH 3nF xI 3nG xJ 3qL xK 3nH xL 3qM xM 3nI 5L ~5j xN 3qN xO 3nJ xP 1k xQ 3nP xR 3mZ xS 3nQ xT 3mY xU 3nm xV 3nl xW 3nc xX 3ng xY 3ne xZ 3nd y0 3nh y1 3nf\nM 58 N y2 a 1e 1 ~59 2 ~7d 3 ~59 4 3mW 5 3mX 6 ~59 7 ~59 8 ~9J 3M 4v 5x 3mY 5w 3mZ 5z 3n0 5M ~5j 5N ~5j 5P 3n1 wY ~5j x3 3n2 x4 3n2 x6 3n3 5o 3n4 5p 3n5 5q 3n6 5n 3n7 5j 3n8 5d 3n9 5e 3na x9 3nb xa 3nc xb 3nd xc 3ne xd 3nf xe 3ng xf 3nh xg 3ni xh 3nj xi 3nk xj 3ne xk 3nf xl 3nl xm 3nm xn 3nn xo 3no xp 3np xq 3np xr 3nq 5f 3nr 5g 3ns xs 3nt xt 3nu xv 3nv xw 3nw xx 3nx xy 3ny xz 3nz xA 3nA xB 3nB xC 3nC xD 3nD xE 3nf xF 3ne xG 3nE xH 3nF xI 3nG xK 3nH xM 3nI xO 3nJ y3 3nK y4 3nL y5 3nM y6 3nN y7 3nO y8 ~59 xR 3mZ xQ 3nP xT 3mY xS 3nQ\nM 58 N y9 a 1i 1 ~59 2 ~7d 3 ~59 4 3lB 5 3lC 6 ~59 7 ~59 8 ~9J nF 3n 3M 4v wg 1g uA 4J ya 2k 2p 2N oV X vw 1N uZ 2n lY O 6M I O 9I 3N Aj a ~8O yb 3lD yc 3lE yd ~3lE ye 3lF yf ~3lF yg 3lG yh ~3lG yi ~WI yj 3lH yk 3lI yl 3lJ ym 3lK yn ~59 yo ~59 yp ~59 yq ~oB tQ 3lL yr 3lM ys 3lN yt 1I5 yu 1Hd yv 3lO yw 3lP yx 3lQ yy 3lR yz 3lS yA 3lT yB 3lU yC 3lV yD 3lW yE 3lX yF 3lY yG 3lZ yH 3m0 yI 3m1 yJ 3m2 yK 3m3 yL 3m4 yM 3m5 yN 3m6 yO 3m7 yP 3m8 yQ ~9J yR 3m9 yS 3ma yT 3mb yU 3mc yV 3md yW 1Hc yX 1Mx yY 3me yZ 1My z0 3mf z1 3mg z2 3mh z3 3mi z4 3mj z5 1He\nM 58 N 5S a k 1 ~59 2 ~59 3 ~59 4 3lz 5 3lA 6 ~59 7 ~59 8 ~9J a ~bb 3M 4v 5X ~5j 5Y ~5j 5U 11j 5R 11g 5V 11l 5T 11i 5S 11h 5W 11k 60 ~11k 5Z ~Kw\nM 58 N 61 a L 1 ~59 2 ~59 3 ~59 4 3jB 5 3jC 6 ~59 7 ~59 8 ~9J 62 3jD 63 3jE 64 3jF 65 1kp 4R 3jG 66 3jH 67 3jI 68 3jJ 69 3jK 6a 3jL 6b 3jM 6c 3jN 6d 3jO 6e 3jP 6f 3jQ 6g 3jR 6h 3jS 6i 3jT 6j 3jU 6k 3jV 6l ~3jG 6m ~8P 6n ~8P 6o ~3jG 6p ~3jG 6q ~5j 6r ~5j 6s ~5j 6t ~5j 6u ~59 6v ~59 6w ~59 6x ~59 6y ~59 6z ~59 6A ~59 6B ~59 55 ~59 6C ~59\nM 58 N z6 a z 1 ~59 2 ~59 3 ~59 4 3iv 5 3iw 6 ~59 7 ~59 8 ~9J a ~8O z7 34z z8 HL 3N Aj 14 3ix z9 3iy za 3iz zb 3iA zc 3iB zd 3iC ze 3iD zf 3iE zg 3iF zh 3iG zi 3iH zj 3iI zk 3iJ zl 3iK zm 3iL zn 3iM zo ~59 zp ~59 zq ~59 zr ~59 zs 3iN zt 3iO zu 3iP\nM 58 N zv a 1r 1 ~59 2 ~59 3 ~59 4 3h1 5 3h2 6 ~59 7 ~59 8 ~9J 3M 4v uA 4J tH 15 4L 2l zw ~bb zx ~8O zy ~8O zz ~8O zA ~8O zB ~8O zC ~8O zD ~8O zE ~8O zF ~9J zG ~5j zH ~5j zI ~8O c3 2km zJ ~9J zK ~8O zL ~8O zM ~9J zN ~8O a ~8O zO ~bb zP ~5j zQ ~bb zR ~5j zS ~bb zT ~5j zU ~5j zV ~5j zW ~5j zX ~5j zY ~8O zZ ~9J A0 ~8O A1 ~5j A2 ~59 A3 ~9J A4 3h3 zv 3h4 A5 3h5 A6 ~9J A7 3h6 A8 3h7 A9 ~3h7 Aa 3h8 Ab 3h9 Ac 3ha Ad 3hb Ae 3hc Af 3hd Ag 3he Ah 3hf Ai 3hg Aj ~5j Ak ~5j Al 3hh Am 3hi An 3hj Ao 3hk Ap 3hl Aq 3hm Ar 3hn As 3ho At 3hp Au 3hq Av 3hr Aw 3hs Ax 3ht Ay 3hq Az ~5j AA ~5j AB 3hu AC 3hv AD 3hw AE 3hx AF 3hy AG 3hz nz 3hA\nM 58 N AH a q 1 ~59 2 ~59 3 ~59 4 3gV 5 3gW tI ~8O 6 ~59 7 ~59 8 ~9J a ~8O AI 3gX AJ 3gY AK 3gZ AL 3h0 AM 1s AN 1u AO 1B AP 1x AQ 1w AR 1v AS 1C AT 1y AU 1t AV 1r AW 1z AX 1A\nM 58 N AY a u 1 ~59 2 ~59 3 ~59 4 3gG 5 3gH 6 ~59 7 ~59 8 ~9J nF 3n nE T nH V vw 1N AZ ~59 B0 ~59 AP 1x a ~8O B1 3gI B2 3gJ B3 3gK B4 ~3gK B5 3gL B6 3gM B7 3e2 B8 3gN B9 3gO Ba ~9J 32 3gP Bb ~9J Bc ~9J 31 3gQ\nM 58 N Bd a o 1 ~59 2 ~59 3 ~59 4 3gE 5 3gF 6 ~59 7 ~59 8 ~9J a ~8O 5T 4A rn Z Be ~59 Bf ~59 Bg ~59 Bh ~8O Bi ~8O Bj ~9J Bk 3cO Bl 3cP Bm 3cN Bn 3cM Bo 3cK Bp 3dn Bq 3cL\nM 58 N Br a j 1 ~59 2 ~59 3 ~59 4 3gA 5 3gB 6 ~59 7 ~59 8 ~9J lY O AT 1y Bs 1v Bt 3cR a ~8O Bu 3ev Bv 3gC Bw 3gD Bx 3e0 By 3e1 Bz ~3e1\nM 58 N BA a m 1 ~59 2 ~59 3 ~59 4 3gr 5 3gs 6 ~59 7 ~59 8 ~9J a ~8O nK 3gt oJ 3gu oI 3gv BB ~59 BC ~59 Bf ~59 BD ~5j BE 3gw BF 3gx BG 3gy 32 3gz BH 3gz BI 3gz\nM 58 N BJ a s 1 ~59 2 ~7d 3 ~59 4 3gl 5 3gm 6 ~59 7 ~59 8 ~9J a ~8O 8J 1CZ AH 1q AP 1x BK 3gj BL ~5j BM ~5j BN ~5j BO ~5j BP ~59 BQ ~59 Bf ~59 BR ~9J BS ~9J BT ~9J BU 3gn BV 3go BW 3gp BX 3gq BY 3cQ\nM 58 N BZ a g 1 ~59 2 ~59 3 ~59 4 3gd 5 3ge 6 ~59 7 ~59 8 ~9J a ~8O C0 3gf C1 21k C2 3gg C3 3gh C4 3gi BK 3gj C5 3gk\nM 58 N C6 a A 1 ~59 2 ~59 3 ~59 4 3fF 5 3fG 6 ~59 7 ~59 8 ~9J C7 3fD C8 3fC C9 3eZ Ca 3fH Cb 3fI Cc 3fJ Cd 3fK Ce 3fL Cf 3fM Cg 3fN Ch 3fO Ci 3fP Cj 3fQ Ck 3fR Cl 3fR Cm 3fS Cn 3fT Co 3fU Cp 3fV Cq 3fW Cr 3fX Cs 3fY Ct 3fZ Cu 3g0 Cv 3g1 Cw 3g2 Cx 3g3 Cy 3g4\nM 58 N Cz a x 1 ~59 2 ~59 3 ~59 4 3eX 5 3eY 6 ~59 7 ~59 8 ~9J a ~8O nF 3n nH V AH 1q C9 3eZ Bs 1v BY 3cQ BC ~59 Be ~59 CA ~db CB ~59 Bf ~59 CC ~5j CD ~59 CE 3f0 CF 3f1 CG ~oB CH ~oB CI ~oB CJ 3dQ CK 3f2 CL 3f3 CM 3f4 CN 3f5 CO 3f6\nM 58 N CP a f 1 ~59 2 ~59 3 ~59 4 3eS 5 3eT 6 ~59 7 ~59 8 ~9J a ~8O 3M 4v 9V 1yK n4 2VM CQ 3eU CR 3eV CS 3eW\nM 58 N CT a v 1 ~59 2 ~59 3 ~59 4 3dY 5 3dZ 6 ~59 7 ~59 8 ~9J a ~8O nH V nF 3n CU 3l 9P 2KV 9V 1yK AS 1C AP 1x Bx 3e0 Bz ~3e1 Bs 1v B7 3e2 BY 3cQ CV ~59 CW ~oB CX 3e3 CY 3e4 CZ 3e5 D0 3e6 D1 3e7 D2 2UV D3 3e8 D4 3e9\nM 58 N D5 a y 1 ~59 2 ~59 3 ~59 4 3dK 5 3dL 6 ~59 7 ~59 8 ~9J a ~8O nF 3n AZ ~59 B0 ~59 D6 ~59 BB ~59 BC ~59 Bf ~59 D7 ~8O D8 ~8O D9 ~8O Da 3dM Db 3dN BE 3dO Dc 3dP CJ 3dQ Dd 3dR Bo 3dS BF 3dT De ~8O BG 3dU 32 3dV BH 3dV BI 3dV Df 3dW Dg 3dX\nM 58 N Dh a M 1 ~59 2 ~59 3 ~59 4 3cI 5 3cJ 6 ~59 7 ~59 8 ~9J a ~8O os 39 nF 3n 5T 4A Di 3m f2 4o 5S 1m Dj 4M Bo 3cK Dk 3cL Bn 3cM Bm 3cN Bk 3cO Bl 3cP BY 3cQ Bg ~59 Bf ~59 Dl ~59 BB ~59 Dm ~59 Dn ~oB Do ~oB Bt 3cR Dp 3cS Dq 3cT Dr 3cW Ds 3cX Dt 3d0 Du 3d1 Dv 3d2 Dw 3d3 Dx 3d4 Dy 3d5 Dd 3d6 Dz 3d7 DA 3d8 DB ~oB DC 3d9 DD 3da DE 3db\nM 58 N DF a k 1 ~59 2 ~59 3 ~59 4 3cw 5 3cx tI ~8O 6 ~59 7 ~59 8 ~9J sS 13 3M 4v DG 1E DH ~9J DI ~59 DJ ~8O DK ~9J DL 3cy DM 3cz DN 3cA DO 1F\nM 58 N DP a 9 1 ~59 2 ~59 3 ~59 4 3cu 5 3cv 6 ~59 7 ~59 8 ~9J DG ~9J\nM 58 N DQ a g 1 ~59 2 ~59 3 ~59 4 3bt 5 3bu 6 ~59 7 ~59 8 ~9J sS 13 31 3bv 32 3bw t9 3bx tb 3by td 3bz te 3bA DR 3bB\nM 58 N DS a 11 1 ~59 2 ~7d 3 ~59 4 3as 5 3at 6 ~59 7 ~59 8 ~9J 3M 4v DT X DU WI DV GJ DW 2jK 8H 1kB a ~8O DX Fp DY 1jn DZ 1k5 E0 ~bb E1 1jm E2 3au E3 3av E4 3aw E5 3ax E6 3ay E7 3az E8 3aA E9 3aB Ea 3aC Eb 3aD Ec 3aE p0 3aF Ed 3aG Ee ~3aH mR 3aI pP GI Ef 3aJ Eg 3aK Eh Gz Ei Gz mQ 1qg Ej 1k0 Ek 3aL El 1jZ Em 1k3 En 1k4 Eo 1jp Ep 1jl Eq 3aN Er 3aO Es 3aP Et 3aQ Eu 1jO Ev 3aR Ew 3aS mS Fq Ex 3aT Ey 3aU Ez 3aV EA 3aW EB 3aX EC 3aY ED 3aZ\nM 58 N EE a 2f 1 ~59 2 ~59 3 ~59 4 5a 5 3ar EF ~9J EG ~5j EH ~5j EI ~5j EJ ~5j EK ~5j EL ~5j EM ~5j EN ~5j EO ~5j EP ~5j EQ ~5j ER ~5j ES ~5j ET ~5j EU ~5j EV ~5j EW ~5j EX ~5j EY ~5j EZ ~5j F0 ~5j F1 ~5j F2 ~5j F3 ~5j F4 ~5j F5 ~5j F6 ~5j F7 ~5j F8 ~5j F9 ~5j Fa ~5j Fb ~5j Fc ~5j Fd ~5j Fe ~5j Ff ~5j Fg ~5j Fh ~5j Fi ~5j Fj ~5j Fk ~5j Fl ~5j Fm ~5j Fn ~5j Fo ~5j Fp ~5j Fq ~5j Fr ~5j Fs ~5j Ft ~5j Fu ~5j Fv ~5j Fw ~5j Fx ~5j Fy ~5j Fz ~5j FA ~5j FB ~5j FC ~5j FD ~5j FE ~5j FF ~5j FG ~5j FH ~5j FI ~5j FJ ~5j FK ~5j FL ~5j FM ~5j FN ~5j FO ~5j FP ~5j FQ ~5j FR ~5j FS ~5j FT ~5j FU ~5j FV ~5j FW ~5j FX ~5j FY ~5j FZ ~5j G0 ~5j G1 ~5j G2 ~5j G3 ~5j G4 ~5j G5 ~5j G6 ~5j G7 ~5j G8 ~5j G9 ~5j Ga ~5j Gb ~5j Gc ~5j Gd ~5j Ge ~5j Gf ~5j Gg ~5j Gh ~5j Gi ~5j Gj ~5j Gk ~5j Gl ~5j Gm ~5j Gn ~5j Go ~5j Gp ~5j Gq ~5j Gr ~5j Gs ~5j Gt ~5j Gu ~5j Gv ~5j Gw ~5j Gx ~5j Gy ~5j Gz ~5j GA ~5j GB ~5j GC ~5j GD ~5j GE ~5j GF ~5j GG ~5j GH ~5j GI ~5j GJ ~5j GK ~5j GL ~5j GM ~5j GN ~5j GO ~5j\nM 58 N GP a 1j 1 ~59 2 ~59 3 ~59 4 5a 5 3am GP 3an GQ 3ao GR 3ap GS 3aq GT ~5j GU ~5j GV ~5j GW ~5j GX ~5j GY ~5j GZ ~5j H0 ~5j H1 ~5j H2 ~5j H3 ~5j H4 ~5j H5 ~5j H6 ~5j H7 ~5j H8 ~5j H9 ~5j Ha ~5j Hb ~5j Hc ~5j Hd ~5j He ~5j Hf ~5j Hg ~5j Hh ~5j Hi ~5j Hj ~5j Hk ~5j Hl ~5j Hm ~5j Hn ~5j Ho ~5j Hp ~5j Hq ~5j Hr ~5j Hs ~5j Ht ~5j Hu ~5j Hv ~5j Hw ~5j Hx ~5j Hy ~5j Hz ~5j HA ~5j HB ~5j HC ~5j HD ~5j HE ~5j HF ~5j HG ~5j HH ~5j HI ~5j HJ ~5j HK ~5j HL ~5j HM ~5j HN ~5j HO ~5j HP ~5j HQ ~5j HR ~5j HS ~5j HT ~5j HU ~5j HV ~5j HW ~5j HX ~5j HY ~5j HZ ~5j I0 ~5j I1 ~5j I2 ~5j\nM 58 N I3 a p 1 ~59 2 ~59 3 ~59 4 39X 5 39Y 6 ~59 7 ~59 8 ~9J os 39 I4 4q I5 1JR 3N Aj a ~8O DH ~9J I6 ~5j I7 ~8O I8 39Z I9 3a0 Ia 3a1 Ib 3a2 Ic 3a3 Id 3a4 Ie 3a5 If 3a6 Ig 3a7\nM 58 N Ih a r 1 ~59 2 ~59 3 ~59 4 39p 5 39q 6 ~59 7 ~59 8 ~9J 4L 2l 3M 4v os 39 3N Aj a ~8O Ii ~7d pg 39r eD 39s Ij 39t Ik 39u Il 39v Im 39w In 39x Io 39y Ip 39z Iq 39A Ir 39B Is 39C zu 39D\nM 58 N or a i 1 ~59 2 ~59 3 ~59 4 39g 5 39h 6 ~59 7 ~59 8 ~9J os 39 It 3a nF 3n vw 1N a ~8O or 39i Iu 39j pM 39k Iv 39l Iw 39m\nM 58 N Ix a j 1 ~59 2 ~59 3 ~59 4 39e 5 39f 6 ~59 7 ~59 8 ~9J 65 1kp Iy 2V Iz 35 1Q 37 nF 3n 3M 4v a ~8O IA ~5j IB ~5j IC ~oB ID 1ko\nM 58 N vw a Q 1 ~59 2 ~59 3 ~59 4 38j 5 38k 6 ~59 7 ~59 8 ~9J a ~8O x 38l tW HL IE 1Xf ly 17H 3N Aj IF ~bb IG ~bb IH 38m vV 1Rq II 2JZ IJ 2K0 IK 2K1 IL 38n IM 38o IN 38p IO 38q IP 38r IQ 38s IR 38t IS 38u IT 38v IU ~9J IV 38w 8I 38x IW ~5l 8H 1kB 8J 1CZ IX 38y IY 38z IZ 38A J0 38B J1 38C J2 11m 8K IO J3 38D J4 38E J5 38F J6 38G J7 38H J8 297 J9 38I Ja ~5l Jb 28D\nM 58 N Jc a u 1 ~59 2 ~59 3 ~59 4 5a 5 380 Jd 381 Je 382 Jf 383 Jg 384 Jh 385 Ji 386 Jj 387 Jk 388 Jl 389 Jm 38a Jn 38b Jo 38c Jp 38d Jq 38e Jr 38f Js 38g Jt 38h Ju 38i Jv ~8O Jw ~8O Jx ~5j Jy ~5j Jz ~5j JA ~5j JB ~5j\nM 58 N JC a n 1 ~59 2 ~59 3 ~59 4 d6 5 37W 6 ~59 8 ~9J os 39 I4 4q a ~8O JD 2fD JE 2fJ JF 2fI JG 2fH JH 2fG JI 2fE JJ 2fF JK 2fC JL 2fM JM 2fK JN 2fL JO 37X JP 37Y\nM 58 N JQ a j 1 ~59 2 ~59 3 ~59 4 37K 5 37L 6 ~59 7 ~59 8 ~9J a ~8O os 39 m8 2h3 JR 37M eX 37M JQ 37N JS 37O JT 37P JU 37Q JV 37R JW 37S\nM 58 N JX a m 1 ~59 2 ~59 3 ~59 4 37w 5 37x 6 ~59 7 ~59 8 ~9J vU 1e 4L 2l os 39 3M 4v m7 4P a ~8O JY 37y JZ 1Rr K0 37z K1 37A K2 37B K3 37C K4 4x JX 1Rr\nM 58 N a9 a G 1 ~59 2 ~59 3 ~59 4 36T 5 36U 6 ~59 7 ~59 8 ~9J 1Q 37 os 39 nF 3n 3M 4v a ~8O K5 ~59 K6 ~oB K7 36V K8 36W K9 ~9J Ka ~9J Kb 36X Kc 36Y Kd 36Z Ke 370 Kf 371 Kg 372 Kh 373 Ki ~9J Kj 374 Kk 375 Kl ~9J Km ~59 ac 376 ad 377 aa 378 Kn 379 Ko 37a Kp 37b a9 2h3 m9 2h4 Kq 37c Kr 37d Ks 374\nM 58 N Kt a B 1 ~59 2 ~59 3 ~59 4 36z 5 36A 6 ~59 7 ~59 8 ~9J vU 1e os 39 nF 3n or 1L uZ 2n I4 4q 3M 4v a ~8O Kt 36B Ku 36C Kv 36D Kw 36E Kx 36F Ky 36G Kz 36H KA 36I KB 36J KC 36K KD 36L KE 36M KF 36N KG 36O KH ~oB KI ~oB KJ 36P KK 36Q KL 36R KM 36S KN ~5j\nM 58 N KO a f 1 ~59 2 ~7d 3 ~59 4 36c 5 36d 6 ~59 7 ~59 8 ~9J 3N Aj a ~8O KP ~5j KQ ~5j KR 36e KS 36f KT 36g\nM 58 N KU a D 1 ~59 2 ~59 3 ~59 4 35b 5 35c 6 ~59 7 ~59 8 ~9J nG 4t 3M 4v 5T 4A os 39 KV 57 oV X 4L 2l 4K a a ~8O KW ~5j KX ~5j KY ~5j KZ ~5j L0 ~5j L1 ~5j L2 ~5j L3 ~5j L4 ~5j L5 ~5j 9E 35d L6 35e L7 35f L8 35g L9 35h La 35i Lb 35j Lc 35k Ld 35l rl 35m rm 35n nz 35o\nM 58 N Le a x 1 ~59 2 ~59 3 ~59 4 34A 5 34B 6 ~59 7 ~59 8 ~9J Lf ~ns Lg ~ns a ~bb Lh ~9J Li ~ns Lj 34C 8L k 8M 34D 8N 34E 8O 34F Lk 34G Ll 34H Lm 34I Ln 34J Lo 34K dj 34L di 34M 2K 34N 2P 34O Lp 34P Lq 34Q Lr 34R Ls 34S Lt 34T Lu 34U\nM 58 N Lv a p 1 ~59 2 ~59 3 ~59 4 34l 5 34m 6 ~59 7 ~59 8 ~9J 9k ~59 a ~8O 9c 21s 9e 21t 9f 34n 9d 34o 9g 34p 9h 34q 9j 34r 9i 34s Lw 34t Lx 34u Ly 34v Lz 34w LA 34x LB 34y LC 34z\nM 58 N LD a j 1 ~59 2 ~59 3 ~59 4 341 5 342 6 ~59 7 ~59 8 ~9J 6N 4P LE k 8Q 1Ac LF 7c 8L 1W LG ~db LH ~db LI ~7d 97 343 8M 344 LJ 345\nM 58 N LK a k 1 ~59 2 ~59 3 ~59 4 33Y 5 33Z tI ~8O 6 ~59 7 ~59 8 ~9J m5 3n LL 20 LM ~9J a ~8O KM 1Rs LN ~9J LO ~ns LP 340 LQ ~oB LR 33f LS 21\nM 58 N LT a d 1 ~59 2 ~59 3 ~59 4 33W 5 33X 6 ~59 7 ~59 8 ~9J a ~8O LU ~9J LV ~9J LW ~9J LX ~9J\nM 58 N LY a p 1 ~59 2 ~59 3 ~59 4 33d 5 33e 6 ~59 7 ~59 8 ~9J nF 3n bR r LR 33f a ~8O LZ ~oB M0 ~oB M1 ~oB M2 ~oB M3 ~oB M4 ~oB M5 ~oB M6 ~oB M7 ~oB M8 ~oB M9 ~oB Ma ~oB Mb 33g\nM 58 N Mc a f 1 ~59 2 ~7d 3 ~59 4 30O 5 30P tI ~8O 6 ~59 7 ~59 8 ~9J Ej 1k0 mQ 1qg mS Fq a ~8O Md 30Q Me 30R\nM 58 N Mf a t 1 ~59 2 ~59 3 ~59 4 30H 5 30I tI ~8O 6 ~59 7 ~59 8 ~9J a ~8O 7A m 3M 4v 7C h 6P i 7Q 30J 7R d9 m7 4P 7v 30K Mg 30L Mh 30M Mi 2VR Mj ~9J Mk 30N Ml 26 w 24 Mm 2e lY 25 Mn 2j Mo 27\nM 58 N Mp a c 1 ~59 2 ~59 3 ~59 4 30F 5 30G 6 ~59 7 ~59 8 ~9J 7C h lY O m7 4P Mq 1B7\nM 58 N Mr a s 1 ~59 2 ~59 3 ~59 4 30c 5 30d 6 ~59 7 ~59 8 ~9J 6P i Ml 26 Ms h Mt i Mq 1B7 lY O m7 4P Mu 2RQ Mv 2RR Mw 2RS a ~8O Mx 30e My 30f Mz 1B6 MA 30g MB 30h MC 30i MD 30j 8u 30k 8t 30l\nM 58 N ME a n 1 ~59 2 ~59 3 ~59 4 d6 5 2Z2 6 ~59 8 ~9J 76 8N 7g 5a 7h d6 86 ~8O 89 ~8O 8a ~8O 88 ~8O 87 ~8O 8r 2Z3 8B 2Z4 8C 2Z5 8v kA 8w 2Z6 8x 2Z7 8z 2Z8 MF 2Z9\nM 58 N MG a 1d 1 ~59 2 ~7d 3 ~59 4 2VP 5 2VQ tI ~8O 6 ~59 7 ~59 8 ~9J os 39 nF 3n lY O wL 1i 3M 4v AH 1q MH 3b MI 55 1Q 37 MJ 4y m7 4P vw 1N uZ 2n It 3a tH 15 8G 2a MK 2d ML 28 MM 2c 3B 29 MN 2Uy MO 2Uz MP 2TO MQ 2Uv MR 2b MS 2Us MT 2Ur MU 2U6 MV 2U7 wa ZC Mi 2VR Mz 1B6 MW 2F7 1G MI 4s MC MX Lm 5x Ll a ~8O MY 2VS MZ 2VT N0 2VU N1 2VV N2 2VW N3 2VX N4 2VY N5 2VZ N6 2W0 N7 2W1 N8 2W2 N9 2W3 Na 2W4 Nb 2W5 Nc 2W6 Nd 2W7 Ne 2W8 Nf 2W9 Ng 2Wa Mo 2Wb Nh 2Wc Ni 2Wd Nj 2We Nk 2Wf Nl 2Wg Nm 2Wh Nn 2Wi No 2Wj\nM 58 N Np a d 1 ~59 2 ~7d 3 ~59 4 2US 5 2UT 6 ~59 7 ~59 8 ~9J nF 3n MJ 4y AH 1q Nq 2TP D2 2UU\nM 58 N Nr a b 1 ~59 2 ~7d 3 ~59 4 2Uw 5 2Ux 6 ~59 7 ~59 8 ~9J tH 15 MN 2Uy MO 2Uz\nM 58 N Ns a c 1 ~59 2 ~7d 3 ~59 4 2Ut 5 2Uu 6 ~59 7 ~59 8 ~9J uA 4J vw 1N MP 2TO MQ 2Uv\nM 58 N Nt a b 1 ~59 2 ~7d 3 ~59 4 2Up 5 2Uq 6 ~59 7 ~59 8 ~9J I5 1JR MT 2Ur MS 2Us\nM 58 N Nu a i 1 ~59 2 ~7d 3 ~59 4 2U3 5 2U4 6 ~59 7 ~59 8 ~9J Nv Le 1o MS 4h Mu 1G MI Nw LW Nx Lw 5x Ll Ny 2U5 MU 2U6 MV 2U7\nM 58 N Nz a b 1 ~59 2 ~7d 3 ~59 4 2TM 5 2TN 6 ~59 7 ~59 8 ~9J nF 3n MP 2TO Nq 2TP\nM 58 N NA a q 1 ~59 2 ~59 3 ~59 4 2TK 5 2TL tI ~8O 6 ~59 7 ~59 8 ~9J lY 2i ML 2f NB 2g NC 2SM Nk 2SG ND 2Sm NE 2h NF 2St NG 2Sp NH 2Sq NI 2Sr NJ 2Ss NK 2Su NL 2Sv NM 59 Mu 2RQ a ~8O\nM 58 N NN a g 1 ~59 2 ~7d 3 ~59 4 2SW 5 2SX 6 ~59 7 ~59 8 ~9J wa ZC 9W 15c lY 2i NO 2SY NP 2SZ NQ 2T0 NR 2T1 NS 2SF\nM 58 N NT a t 1 ~59 2 ~7d 3 ~59 4 2SD 5 2SE 6 ~59 7 ~59 8 ~9J os 39 MH 3b NU 4w vw 1N vU 1e uA 4J Mf 23 5x Ll MX Lm Mu 2RQ Mv 2RR NS 2SF ND 2Sm Nk 2SG NV 2SH NW 2SI NX 2SJ NY 2SK NZ 2SL NC 2SM m8 2SN\nM 58 N O0 a v 1 ~59 2 ~7d 3 ~59 4 2Sk 5 2Sl 6 ~59 7 ~59 8 ~9J vw 1N os 39 MH 3b uA 4J m7 4P 5x Ll 4g Mt O1 MQ O2 Nj O3 Nk Nv Le NB 2g ND 2Sm NM 59 O4 2Sn O5 2So NG 2Sp NH 2Sq NI 2Sr NJ 2Ss NF 2St NK 2Su NL 2Sv\nM 58 N O6 a q 1 ~59 2 ~7d 3 ~59 4 2RN 5 2RO 6 ~59 7 ~59 8 ~9J lY O 4L 2l os 39 Nv Le O2 Nj 4g Mt 4h Mu O7 Lf O8 59 MX Lm O9 LZ Nw LW 5x Ll Oa 2RP a ~8O Mu 2RQ Mv 2RR Mw 2RS\nM 58 N Ob a z 1 ~59 2 ~59 3 ~59 4 d6 5 2Ri 6 ~59 8 ~9J Mq 1B7 7a 2Rj 7j 2Rk 77 2Rl 7l 2Rm 82 ~db 83 ~5j 8b 2Rn 8o 2Ro 8c 2Rp 8q 2Rq mO 2Rr 7A m vw 1N 3M 4v uz 4z uA 4J m7 4P 9C 2Rs Oc 2Rt Od 2Ru Oe 2Rv Of 2Rw Og 2Rx Oh 2Ry Oi 2Rz Oj 2RA Ok 2RB\nM 58 N ya a 2G 1 ~59 2 ~59 3 ~59 4 2MF 5 2MG 6 ~59 7 ~59 8 ~9J rf ~bb a ~8O lY O mN R zv 1p tH 15 DS 1G Mf 23 uZ 2n Ol 2O os 39 nF 3n 3M 4v Om 4D On 4C uA 4J vw 1N oV X Oo 2yf cW 1JT tW HL 3F Qp Op ~5j Oq ~5j Or ~5j Os ~5j b ~5j ot ~5j Ot ~5j ou ~5j Ou ~5j ov ~5j Ov ~5j Ow 2MH Ox 2MI Oy 1Mq Oz 2MJ OA 2MK OB 2ML OC 2MM OD 2MN OE 2MO OF 2MP OG 2MQ OH 2MR OI 2MS OJ 2MT OK 2MU OL 2MV OM 2MW ON 2MX OO 2MY OP 2MZ OQ 2N0 OR 2N1 OS 2N2 OT 2N3 OU 2N4 OV 2N5 OW 2N6 1C 2N7 OX 2N8 OY 2N9 OZ 2Na P0 2Nb P1 2Nc P2 2Nd P3 2Ne P4 2Nf P5 2Ng P6 2Nh P7 2Ni P8 2Nj P9 ~9J Pa ~9J Pb 2Nk Pc 2Nl Pd 2Nm Pe 2Nn Pf 2No Pg 2Np Ph 2Nq Pi 2Nr Pj 2Ns Pk 2Nt Pl 2Nu Pm 2Nv Pn 2Nw Po 2Nx Pp 2Ny Pq 2Nz Pr 2NA Ps 2NB Pt 2NC Pu 2ND Pv 2NE Pw 2NF Px 2NG Py 2NH Pz 2NI PA 2NJ PB 2NK PC 2NL PD 2NM PE 2NN PF 2NO PG 2NP PH 2NQ PI 2NR PJ 2NS PK 2NT PL 2NU PM 2NV PN 2NW PO ~5l PP 2NX PQ 2NY PR 2NZ yJ 2O0 PS 2O1 PT 2O2 PU ~59 PV ~59 PW ~59 PX ~59 PY 2O3 PZ 2O4 Q0 ~59 Q1 ~59 Q2 ~59 Q3 ~59 Q4 2O5 Q5 2O6 Q6 ~bb Q7 2O7 Q8 2O8 Q9 2O9 Qa 2Oa Qb 2Ob Qc 2Oc Qd 2Od Qe 2Oe Qf 2Of Qg 2Og Qh 2Oh Qi 2Oi Qj 2Oj Qk 2Ok Ql 2Ol Qm 2Om Qn 2On Qo 2Oo Qp 2Op Qq 2Oq Qr 2Or Qs 2Os Qt 2Ot Qu 2Ou\nM 58 N 4L a y 1 ~59 2 ~59 3 ~59 4 d6 5 2KR 6 ~59 8 ~9J rf ~59 a ~8O 7D n lY O 9H ~5j 9J 2KS 9I 2KT 9E 15a 9G 2KU 9U 18s 9P 2KV 9V 1yK 9Q 1fw 9R 2KW 9S 2KX 9T 2KY 9L 2KZ 9F 2L0 9W 15c us 2L1 Qv ~5j Qw ~5j Qx ~5j Qy hV Qz 1ts QA hT QB 2L2\nM 58 N QC a F 1 ~59 2 ~59 3 ~59 4 2Gr 5 2Gs 6 ~59 7 ~59 8 ~9J 55 ~59 vw 1N QD ~5j QE ~5j QF 2Gt QG 2Gu QH 2Gv QI 2Gw QJ 2Gx QK 2Gy QL 2Gz QM 2GA QN 2GB QO 2GC QP 2GD QQ 2GE QR 2GF QS 2GG QT 2GH QU ~7d QV 2GI QW 2GJ QX 2GK QY 2GL QZ 2GM R0 2GN R1 2GO R2 2GP R3 2GQ R4 2GR R5 2GS R6 2GT R7 2GU\nM 58 N uZ a r 1 ~59 2 ~59 3 ~59 4 5a 5 2F0 R8 2F1 R9 20H Ra 2F2 Rb 2F3 Rc 2F4 Rd 2F5 Re 2F6 Rf 17A MW 2F7 Rg 1Wg rl 2F8 I5 1JR Rh zj Ri 1R0 Rj 2F9 Rk 2Fa Rl 2Fb ro 1kr Rm 1kq Rn 2Fc Ro 2Fd Rp 2Fe\nM 58 N Rq a v 1 ~59 2 ~59 3 ~59 4 ~1B5 5 2EZ tI ~8O 6 ~59 7 ~59 8 ~9J 55 ~59 Rr 2F Rs 2p Rt 2DQ Ru 2B7 Rv 2Ak Rw 2Ah Rx 2Am Ry 2Aj Rz 2Af RA 2Al RB 2Ag RC 2H RD 2zU RE 2zH RF 2zn RG 2I RH 2zq a ~8O RI 2E uy 2G RJ 2q\nM 58 N RK a p 1 ~59 2 ~59 3 ~59 4 ~1B5 5 2EW 6 ~59 7 ~59 8 ~9J RL ~9J v 11f vw 1N uy 2Q os 39 4g zP 4s zM yW 1Hc DX Fp RM 2Ai RN 2EX RO ~59 Rt 2DQ RP ~i2 Ru 2B7 RQ 2EY RR 2ES\nM 58 N RS a P 1 ~59 2 ~59 3 ~59 4 ~1B5 5 2ER tI ~8O 6 ~59 7 ~59 8 ~9J uy 2Q 3M 4v RT 2d2 1G MI MX Lm RR 2ES RU 2u RV 2s Ks 2B8 RW 2B9 LS 2B RX 2t RY 2ED mT 2EE RZ 2y S0 2Dn S1 2z S2 2Dl S3 2Di S4 2Bf S5 2Bh S6 2Be S7 2C S8 2B2 S9 2B4 AS 2D Sa 2AY Sb 2Aw Ry 2Aj Rz 2Af RB 2Ag Sc 2Ac RH 2zq a ~8O RN 2B5 Sd ~5j Se ~5j Sf ~5j nz 2EQ Sg 2ET Sh 2v Si 2r\nM 58 N Sj a a 1 ~59 2 ~59 3 ~59 4 ~1B5 5 2EP 6 ~59 7 ~59 8 ~9J 3M 4v nz 2EQ\nM 58 N Sk a l 1 ~59 2 ~59 3 ~59 4 ~1B5 5 2EO 6 ~59 7 ~59 8 ~9J v 11f nF 3n 4g zP 4h Ph yW 1Hc Rt 2DQ Sl 2Eo Sm 2Ep Rv 2Ak RD 2zU Sn ~oB RW 2B9 Ks 2B8\nM 58 N So a k 1 ~59 2 ~59 3 ~59 4 ~1B5 5 2EB 6 ~59 7 ~59 8 ~9J v 11f m4 P uy 2Q yW 1Hc Sp ~8P Nv Le Sq ~59 RA 2Al a ~8O RN 2EC RY 2ED mT 2EE\nM 58 N Sr a l 1 ~59 2 ~59 3 ~59 4 ~1B5 5 2En 6 ~59 7 ~59 8 ~9J v 11f m4 P yW 1Hc Sp ~8P Nv Le Ss Lj Nw LW O9 LZ Sl 2Eo Sm 2Ep St 2Ba Su 2DS Sv 2DR\nM 58 N Sw a u 1 ~59 2 ~59 3 ~59 4 ~1B5 5 2DP tI ~8O 6 ~59 7 ~59 8 ~9J RL ~9J v 11f 4q SV 4s zM Nv Le Rt 2DQ Ks 2B8 RW 2B9 Sv 2DR Su 2DS rd 2w Sx 2DA Sy 2DB Nh 2x Sz 2Dy Rw 2Ah RD 2zU a ~8O SA ~8O SB 2DT SC 2DU\nM 58 N SD a g 1 ~59 2 ~59 3 ~59 4 ~1B5 5 2Dz 6 ~59 7 ~59 8 ~9J v 11f m4 P yW 1Hc S6 2Be RB 2Ag a ~8O Sx 2DA Sy 2DB\nM 58 N SE a a 1 ~59 2 ~59 3 ~59 4 ~1B5 5 2Dx 6 ~59 7 ~59 8 ~9J 55 ~59 Sz 2Dy\nM 58 N SF a h 1 ~59 2 ~59 3 ~59 4 ~1B5 5 2Dm 6 ~59 7 ~59 8 ~9J v 11f m4 P yW 1Hc yu 1Hd RT 2d2 Sp ~8P Ru 2B7 Sb 2Aw S0 2Dn\nM 58 N SG a e 1 ~59 2 ~59 3 ~59 4 ~1B5 5 2Dk 6 ~59 7 ~59 8 ~9J v 11f vw 1N Nv Le 4q Mz a ~8O S2 2Dl\nM 58 N SH a h 1 ~59 2 ~59 3 ~59 4 ~1B5 5 2Dg 6 ~59 7 ~59 8 ~9J v 11f uy 2Q Sp ~8P Nv Le Rx 2Am a ~8O RN 2Dh S3 2Di SI 2Dj\nM 58 N SJ a G 1 ~59 2 ~59 3 ~59 4 ~1B5 5 2B6 6 ~59 7 ~59 8 ~9J v 11f m4 P z6 1o uy 2Q nF 3n 4y Sp SK Ni O7 Lf O8 1Dh 55 ~59 Ru 2B7 Ks 2B8 RW 2B9 St 2Ba Rv 2Ak RB 2Ag SL 2zm RD 2zU RE 2zH RF 2zn SM ~bb SN 2zp a ~8O RN 2Bb SO ~59 SP ~59 Sq ~59 SQ ~oB SR 2Bc SS 2Bd S6 2Be S4 2Bf ST 2Bg S5 2Bh\nM 58 N SU a n 1 ~59 2 ~59 3 ~59 4 ~1B5 5 2B0 6 ~59 7 ~59 8 ~9J RL ~9J v 11f uy 2Q 4q SV 4g zP Mo 27 Nv Le a ~8O RN 2B1 SV ~59 SW ~9J SX ~9J S8 2B2 SY 2B3 S9 2B4\nM 58 N SZ a j 1 ~59 2 ~59 3 ~59 4 ~1B5 5 2AW 6 ~59 7 ~59 8 ~9J RL ~9J v 11f sM 4I Sp ~8P Ry 2Aj Rz 2Af a ~8O T0 ~7d T1 2AX Sa 2AY T2 2AZ\nM 58 N T3 a t 1 ~59 2 ~59 3 ~59 4 ~1B5 5 2At 6 ~59 7 ~59 8 ~9J 3M 4v m7 4P yW 1Hc yu 1Hd RT 2d2 Nv Le RM 2Ai T4 4E T5 ~8O T6 ~2d3 T7 ~bb T8 ~9J T9 ~ns Ta ~ns Tb 2Au Tc 2Av Sb 2Aw Td 2Ax Te 2Ay Tf 2Az Tg 2AA\nM 58 N Th a m 1 ~59 2 ~59 3 ~59 4 ~1B5 5 2Ae 6 ~59 7 ~59 8 ~9J v 11f Nv Le 1o MS 1G MI MX Lm Rz 2Af RB 2Ag Rw 2Ah RM 2Ai Ry 2Aj Rv 2Ak RA 2Al Rx 2Am a ~8O\nM 58 N Ti a d 1 ~59 2 ~59 3 ~59 4 ~1B5 5 2Aa 6 ~59 7 ~59 8 ~9J uy 2Q Tj 2Ab Tk ~59 Sc 2Ac Tl 2Ad\nM 58 N Tm a g 1 ~59 2 ~59 3 ~59 4 ~1B5 5 2zT 6 ~59 7 ~59 8 ~9J v 11f yW 1Hc yu 1Hd DX Fp RD 2zU RF 2zn RE 2zH SL 2zm\nM 58 N Tn a k 1 ~59 2 ~59 3 ~59 4 ~1B5 5 2zl 6 ~59 7 ~59 8 ~9J RL ~9J v 11f SK Ni To Ln Tp 1RY O8 1Dh SL 2zm RF 2zn Tq 2zo SM ~bb SN 2zp RH 2zq\nM 58 N Tr a q 1 ~59 2 ~59 3 ~59 4 2za 5 2zb tI ~8O 6 ~59 7 ~59 8 ~9J 55 ~59 a ~8O rf ~59 Ts 2M Tt 2K Tu 2z1 Tv 2yW Tw 2L Tx 2yA sS 13 Ty 2zc d0 2zd d1 2ze Tz 2zf TA 2zg d2 2zh d3 2zi\nM 58 N TB a s 1 ~59 2 ~59 3 ~59 4 2yS 5 2yT 6 ~59 7 ~59 8 ~9J nF 3n Ts 2M TC 2yU a ~8O TD 2yV TE ~17I TF ~17I TG ~17I Tv 2yW TH ~9J TI ~oB TJ ~9J TK 2yX TL 2yY a0 2yU TM ~oB TN ~59 TO 2yZ TP 2z0 Tu 2z1\nM 58 N TQ a n 1 ~59 2 ~59 3 ~59 4 2yt 5 2yu 6 ~59 7 ~59 8 ~9J nF 3n TR 2yv TS 2yw TT 2yx TU ~oB TV ~oB TW ~oB TX ~9J TY ~17I TZ 2yy 9Z 2yw U0 2yz 9Y 2yv Tx 2yA U1 2yB\nM 58 N U2 a e 1 ~59 2 ~59 3 ~59 4 2yh 5 2yi 6 ~59 7 ~59 8 ~9J nF 3n U3 2yj a ~8O U4 ~oB U5 2yk a1 2yj\nM 58 N 2p a d 1 ~59 2 ~59 3 ~59 4 2yd 5 2ye 6 ~59 7 ~59 8 ~9J a ~8O U6 ~8O U7 ~8O Oo 2yf U8 2yg\nM 58 N Ol a k 1 ~59 2 ~59 3 ~59 4 2y5 5 2y6 6 ~59 7 ~59 8 ~9J vw 1N 3M 4v os 39 Om 4D a ~8O J3 ~9J U9 2y7 Ua 2y8 Ub 2y9 Uc 2ya Ud 2yb Ue 2yc\nM 58 N Uf a 20 1 ~59 2 ~59 3 ~59 4 2xn 5 2xo 6 ~59 7 ~59 8 ~9J 3M 4v DF 1D nF 3n tJ 8 Ug 59 vw 1N a ~8O Uh 2xp Ui 2xq a4 2xr a5 2xs a6 2xt a7 2xu a8 2xv a9 2xw aa 2xx ab 2xy ac 2xz ad 2xA ae 2xB af 2xC ag ~5j ah ~5j ai ~5j aj ~5j ak ~5j al ~5j am ~5j an ~5j 5b 2xD ao ~5j ap ~5j aq ~5j ar ~5j as ~5j at ~5j au ~5j av ~5j aw ~5j ax ~5j ay ~5j az ~5j aA ~5j aB ~5j aC ~5j aD ~5j aE ~5j aF ~5j aG ~5j aH ~5j aI ~5j aJ ~5j aK ~5j aL ~5j aM ~5j aN ~5j aO ~5j aP ~5j aQ ~5j aR ~5j aS ~5j aT ~5j aU ~5j aV ~5j aW ~5j aX ~5j aY ~5j aZ ~5j b0 ~5j b1 ~5j b2 ~5j b3 ~5j b4 ~5j b5 ~5j b6 ~5j b7 ~5j b8 ~5j b9 ~5j ba ~5j bb ~5j bc ~5j bd ~5j be ~5j bf ~5j bg ~5j Uj 2xE Uk ~9J Ul 2xF Um 2xG Un 2xH Uo ~oB Up 2xI Uq 2xJ Ur 2xK p9 2xL Us 2xM pY 2xN Ut 2xO Uu 2xP Uv 2xQ Uw 2xR zu 2xS Ux 2xT Uy 2xU Uz 2xV UA 2xW UB 2xX UC 2xY UD 2xZ UE 2y0 UF 2y1 UG 2y2 UH ~9J UI ~9J UJ ~9J UK 2y3\nM 58 N uy a 1L 1 ~59 2 ~59 3 ~59 4 2vo 5 2vp tI ~8O 6 ~59 7 ~59 8 ~9J 3M 4v os 39 5T 4A 4L 2l nF 3n sM 4I m7 4P uY 4Q tH 15 3N Aj UL 1iW a ~8O uz 4z rf ~59 UM ~59 55 ~59 UN ~59 UO ~17I UP ~8P UQ ~8P UR ~8P US ~8P UT ~5j UU ~5j UV ~5j UW ~5j UX ~5j UY ~5j UZ ~5j V0 ~5j V1 ~9J V2 ~9J V3 2vq V4 2vr V5 2vs PL 2vt V6 ~59 V7 2vu V8 2vv V9 ~17H Va 2vw Vb 2vx Vc 2vy Vd 2vz Ve 2vA Vf 2vB Vg 2vB Vh 2vC Vi 2vD Vj 2vE Vk ~1iX Vl 2vF Vm 2vG Vn 2vH Vo ~59 Vp ~9J Vq 2vI Vr 2vJ Vs 2vK Vt 2vL Vu 1KH Vv 2vM Vw ~8O Vx 2vN Vy 2vO Sm 2t1 Vz 2u3 VA 2u2 VB 2vP VC 2vQ VD 2vQ VE 2vR VF 2vS VG 2vT VH 1Kt VI 1Kq VJ 1KG VK 1Kq VL 2vU VM 1Kr VN 2vV VO 1JS VP 2vW VQ 2vX eX 2vY VR 2vZ VS 2w0 lH 2w1 VT 2w2 VU 2w3 sp 2w4 Je 2w5 VV 2w6 nA S VW 2w7 VX ~7d VY 2w8 VZ 2w9 W0 2S RI 2R\nM 58 N W1 a G 1 ~59 2 ~59 3 ~59 4 2uv 5 2uw 6 ~59 7 ~59 8 ~9J EE 1H 4L 2l uy 2Q os 39 uU 3k nF 3n nG 4t uz 4z sM 4I W2 1pR W3 1pX W4 ~5j W5 ~5j W6 ~7d W7 2ux W8 2uy W9 2uz Wa 2uA Wb 2uB Wc 2uC Wd 2uD We 2uE Wf ~oB Wg 2uF Wh 2uG Wi 2uH Wj 2uI Wk 2uJ Wl 2uK Wm 2uL Wn 2uL Wo 2uM Wp 2uN Wq 2uO\nM 58 N Wr a H 1 ~59 2 ~59 3 ~59 4 2sB 5 2sC 6 ~59 7 ~59 8 ~9J 4L 2l uy 2Q f2 4o os 39 wu 3c nG 4t 5T 4A nF 3n kY ~5j kX ~5j l4 ~5j uU 3k uz 4z wg 1g Ws ~5j Wt ~5j Wu ~5j Wv ~5j Ww ~5j Wx ~5j Wy ~5j Wz 2sD WA 2sE WB 2sF WC 2sG WD 2sH WE 2sI WF 2sJ WG 2sK WH 2sL WI 2sM WJ 2sN WK 2sO WL 2sP WM 2sQ\nM 58 N WN a S 1 ~59 2 ~59 3 ~59 4 2rT 5 2rU 6 ~59 7 ~59 8 ~9J a ~8O oV X 4L 2l os 39 bj 2rV bm ~5j bn ~5j bo ~5j bp ~5j bq ~5j br ~5j bs ~5j bt ~5j bu ~5j bv ~5j bw ~5j bx ~5j by ~5j bz ~5j bA ~5j bB ~5j bC ~5j bD ~5j bE ~5j bF ~5j bG ~5j bH ~5j bI ~5j bJ ~5j bK ~5j bL ~5j bM ~5j bN ~5j bO 2rW bP 2rX bQ 2rY bk 2rZ bl 2s0 4K a rh ~5j ri ~5j rj ~5j WO 2s1 9E 2s2 rl 2s3 rm 2s4\nM 58 N 7E a a 1 ~59 2 ~59 3 ~59 4 5a 5 2rQ d0 2rR d2 2rS d1 1IN d3 1IO Nh ~5j\nM 58 N Iy a 13 1 ~59 2 ~59 3 ~59 4 5a 5 2ra sc 20A sd 2rb se 2rc sf 2rd sg 2re WP 2rf sh 2rg WQ 2rh WR 1Rt WS 2ri si 20B sj 2rj WT 2rk WU 2rl WV 1ky WW 2rm sk 1kx WX 2rn WY 2ro WZ 1kw X0 2rp X1 20D X2 2rq X3 2rr X4 1kA X5 2rs X6 1D0 X7 1ku sl 2rt sm 20E sn 2ru so 2rv X8 2rw X9 2rx Xa 2ry Xb 2rz sp 1kz Xc 2rA sq 2rB Xd 2rC Xe 2rD cL 2rE Xf 2rF Xg 2rG su 20C sv 2rH sw 1kv sx 2rI sy 2rJ Xh 2rK Xi 2rL Xj 2rM Xk 2rN Xl 2rO Xm 2rP sz ~17I sA ~17I sB ~17I sC ~17I sE ~17I\nM 58 N Xn a z 1 ~59 2 ~59 3 ~59 4 2qN 5 2qO 6 ~59 7 ~59 8 ~9J os 39 3M 4v It 3a Dj 4M Xo ~7d Xp ~7d a ~8O Xq ~8O Xr ~8P Xs ~7d Xt 2qP Xu 2qQ Xv 2qR Xw 2qS Xx 2qT Xy 2qU Xz 2qV XA 2qW XB ~9J XC ~9J XD ~9J XE ~9J XF ~9J XG ~9J XH ~9J XI ~9J Qu 2qX\nM 58 N uW a U 1 ~59 2 ~7d 3 ~59 4 2qj 5 2qk tI ~8O 6 ~59 7 ~59 8 ~9J 3M 4v ut 30 XJ 32 RZ 2Z a ~8O 5z 2ql XK 2nX XL 2qm XM 2qn XN 2nV XO 2qo XP 2qp XQ 2qq XR 2qr VH 2qs XS 2qt XT 2qu XU 2nZ XV 2nU uX 2qv ly 2qw XW 2qx XX 2qy XY 2qz de 2qA qQ 2nW XZ 2qB Y0 2n4 Y1 2qC Y2 2qD Y3 2n3 Y4 2qE Y5 2qF Y6 2qG Y7 2qH Y8 2qI Y9 2qJ Ya 2n5 Yb 32 Yc 2qK Yd 2qL Ye 2qM Yf ~5j Yg ~5j Mn 33 Yh 2Y Yi 31\nM 58 N Yj a W 1 ~59 2 ~7d 3 ~59 4 2p5 5 2p6 6 ~59 7 ~59 8 ~9J a ~8O EE 1H 4L 2l os 39 3M 4v f2 4o nG 4t 5T 4A NU 4w uZ 2n bY s Mn 33 XK 2nX XN 2nV XJ 32 Yk 2lN Yl ~7d I6 ~5j Ym ~17I Yn ~zj Yo ~59 Yp ~8O Yq 2p7 Yr 2p8 Ys 2p9 Yt 2pa Yu 2pb Yv 2pc Yw 2pd Yx 2pe Yy 2pf XS 2pg Yz 2ph YA 2pi YB ~5j YC ~db YD ~db YE ~db YF 2pj YG 2pk YH 2pl YI 2pm YJ 2pn YK 2po YL 2pp YM 4j YN 1hc up 2pq YO 2pr YP 2ps\nM 58 N YQ a y 1 ~59 2 ~7d 3 ~59 4 2nS 5 2nT 6 ~59 7 ~59 8 ~9J os 39 3M 4v uz 4z ut 30 XJ 32 a ~bb XV 2nU XN 2nV qQ 2nW XK 2nX YR 2nY XU 2nZ 6l 2o0 YS 2o1 YT 2o2 YU 2o3 YV 2o4 YW 2o5 YX 2o6 YY ~9J YZ 2o7 Z0 2o8 Z1 ~18i Z2 2o9 Z3 2oa Z4 2ob\nM 58 N Z5 a t 1 ~59 2 ~7d 3 ~59 4 2n1 5 2n2 6 ~59 7 ~59 8 ~9J a ~8O os 39 3M 4v dq 4m uZ 2n uz 4z lX zc Z6 ~59 Y3 2n3 Y0 2n4 Ya 2n5 Z7 2n6 Z8 2n7 Z9 2n8 Za 2n9 Zb ~7d Zc 2na Zd ~zj Ze ~ns Zf ~9J Zg 2nb\nM 58 N Zh a w 1 ~59 2 ~7d 3 ~59 4 2mg 5 2mh 6 ~59 7 ~59 8 ~9J a ~8O 3M 4v os 39 uz 4z tH 15 5T 4A uA 4J uY 4Q EE 1H dd 21v Zi 21w bY s Yh 2Y RZ 2Z Yk 2lN VU 2l6 VT 2l7 Zj 2li Zk 2lh Zl 2lk uX 2mi PO ~5l XQ 2mj de 2mk\nM 58 N Zm a B 1 ~59 2 ~7d 3 ~59 4 2lL 5 2lM 6 ~59 7 ~59 8 ~9J 3K hS wt 1h vw 1N 4L 2l os 39 wu 3c f2 4o 3M 4v RZ 2Z a ~8O Zn ~8P Zo 2lN 2Y 2lO d0 2lP mJ Q Zp ~8P Zq 2lQ Zr 2lR Zs 2lS Zt 2lT Zu 2lU Zv 2lV Zw 2lW Zx 2lX Zy 2lY Zz 2lZ ZA 2m0 ZB 2m1 ZC 2m2\nM 58 N ZD a V 1 ~59 2 ~7d 3 ~59 4 2l3 5 2l4 6 ~59 7 ~59 8 ~9J os 39 uZ 2n 3M 4v uY 4Q nA S uz 4z ZE 1hf ut 30 a ~8O V0 ~5j Yf ~5j UZ ~5j UY ~5j Yg ~5j ZF ~59 ZG ~59 Tj ~7d ZH ~8P ZI 2l5 VU 2l6 VT 2l7 ZJ 2l8 Y7 2l9 Y9 2la ZK 2lb ZL 2lc ZM ~8P ZN 2ld ZO 2le ZP 2lf ZQ ~zj ZR 2lg Zk 2lh ZS ~9J ZT ~zj Zj 2li ZU 2lj Zl 2lk ZV ~8P ZW 2ll ZX 2lm ZY 2ln ZZ ~5j 100 2lo 101 2lp 102 2lq 103 2lr 104 2ls 105 2lt\nM 58 N 106 a R 1 ~59 2 ~59 3 ~59 4 d6 5 2kJ 6 ~59 8 ~9J 107 ~59 108 ~59 109 ~59 10a ~59 10b ~59 10c ~59 10d ~59 10e ~59 os 39 3M 4v I4 4q JC 1P JK 2fC JD 2fD JI 2fE JJ 2fF JH 2fG JG 2fH JF 2fI JE 2fJ JM 2fK JN 2fL JL 2fM a ~8O 10f 2kK 10g 2kL 10h 2kM 10i 2kN 10j 2kO 10k 2kP 10l 2kQ 10m 2kR 10n 2kS 10o 2kT 10p 2kU 10q ~7d 10r 2kV 10s 2kW 10t 2kX 10u 2kY 10v 2kZ 10w 2kZ 10x 2kZ 10y ~8P 10z 2l0 10A 2l1\nM 58 N Iz a g 1 ~59 2 ~59 3 ~59 4 2kn 5 2ko 6 ~59 7 ~59 8 ~9J 3K hS 3L KP a ~8O 10B 1nJ 10C 1nI 10D 1nH 10E 1nG 10F 2kp\nM 58 N 10G a t 1 ~59 2 ~59 3 ~59 4 2kk 5 2kl 6 ~59 7 ~59 8 ~9J a ~8O c3 2km zw ~bb zx ~8O zy ~8O zz ~8O zA ~8O zB ~8O zC ~8O zD ~8O zI ~8O zF ~9J zE ~8O zG ~5j zH ~5j zL ~8O zM ~9J zN ~8O 10H ~8O zJ ~9J zK ~8O\nM 58 N 1Q a 1N 1 ~59 2 ~59 3 ~59 4 2jn 5 2jo 6 ~59 7 ~59 8 ~9J a ~8O 10I 2jp cP 2jq cQ 2jr cN 2js cO 2jt cS 2ju cR 2jv cq 2jw c6 2jx ca 2jy cb 2jz cl 2jA cd 2jB cr 2jC ch 2jD cc 20G cm 2jE cn 2jF co 2jG K 2jH cf 1kC cg 2jI cj 2jJ ct 2jK ck 2jL cL 2jM cp 2jN ce 2jO ci 2jP cs 2jQ cG 2jR c7 2jS c9 2jT cK 2jU cI 2jV c8 2jW cJ 2jX cU 2jY cV 2jZ cW 1JT cX 1D1 cY 2k0 cu 2k1 cD 2k2 cH 2k3 cy 2k4 cB 2k5 cA 2k6 cw 2k7 cx 2k8 cF 2k9 cM 2ka cC 2kb cv 2kc cz 2kd cE 2ke 10J 2jq 10K 2jr 10L 2js 10M 2jt 10N 2ju 10O 2jv 10P 2jw 10Q 2jA 10R 2jB 10S 2jC 10T 2jZ 10U 2jD 10V 20G 10W 2jE 10X 2jF 10Y 2jG 10Z 2jH 110 1kC 111 2jI 112 2jJ 113 2jK 114 2jL 115 2jM 116 2jN 117 2jO 118 2jP 119 2jQ 11a 2jR 11b 2jS 11c 2jU 11d 2jV 11e 2jX 11f 2k1 11g 2k2 11h 2k3 11i 2k4 11j 2k5 11k 2k6 11l 2k7 11m 2k8 11n 2k9 11o 2ka 11p 2kb 11q 2kc 11r 2kd 11s 2ke\nM 58 N 11t a G 1 ~59 2 ~59 3 ~59 4 2h0 5 2h1 6 ~59 7 ~59 8 ~9J 55 ~59 a ~8O 11u ~59 3M 4v os 39 MJ 4y 11v 2h2 a9 2h3 m9 2h4 m8 2h3 11w 2h5 11x 2h6 11y 2h7 11z 2h8 11A 2h9 11B 2ha mj 2hb 11C 2hc 11D 2hd 11E 2he 11F 2hf 11G ~9J 11H 2hg 11I 2hh 11J ~bb 11K 2hi 11L ~59 11M ~59 11N 2hj 11O 2hk 11P 2hl 11Q 2hm 11R 2hn 11S 2hi\nM 58 N os a 6f 1 ~59 2 ~59 3 ~59 4 d6 5 2g8 6 ~59 8 ~9J lY O 3M 4v 11T 4q 49 2g9 3N Aj a ~8O 11U 2ga 11V 2gb 11W ~59 11X ~59 I4 23Y 11Y 23Z 11Z 240 we 241 120 242 121 243 122 244 123 245 124 246 125 247 126 248 127 249 128 24a 129 24b 12a 24c 12b 24d 12c 24e 12d 24f 12e 24g 12f 24h 12g 24i 12h 24j 12i 24k 12j 24l 12k 24m z5 24n 12l 24o 12m 24p 12n 24q 12o 24r 12p 24s 12q 24t 12r 24u 12s 24v 12t 24w 12u 24y 12v 24z 12w 24A 12x 24B 12y 24C 12z 24D 12A 24E 12B 24F 12C 24G 12D 24H 12E 24I 12F 24J 12G 24K 12H 24L 12I 24M 12J 24N 12K 24O 12L 24P 12M 24Q 12N 24R 12O 24S 12P 24T 12Q 24U 12R 24V 12S 24W 12T 24X 12U 24Y 12V 24Z 12W 250 12X 251 12Y 252 12Z 253 130 254 131 255 132 256 133 257 134 258 135 259 136 25a up 25b 137 25c 138 25d 139 25e 13a 1h5 13b 25f 13c 25g 13d 25h 13e 25i 13f 25j 9E 25k eD 25l 13g 25m 13h 25n eE 25o 13i 25p GS 25q 13j 25r 13k 25s 13l 25t 13m 25u 13n 25v 13o 25w 13p 25x 13q 25y 13r 25z 13s 25A 13t 25B 13u 25C 13v 25D 13w 25E 13x 25F 13y 25G 13z 25H 13A 25I 13B 25J 13C 25K 13D 25L 13E 25M 13F 25N 13G 25O 13H 25P 13I 25Q 13J 25R 13K 25S 13L 25T 13M 25U 13N 25V 13O 25W 13P 1h7 13Q 25X 13R 25Y 13S 25Z 13T 260 13U 1h8 13V 261 13W 262 13X 263 13Y 264 13Z 265 140 266 141 267 142 269 143 20F 144 26a 145 26b 146 26c 147 26d 148 26e 149 26f 14a 26g 14b 26h 14c 26i Y2 26j 14d 26k 14e 26l 14f 26m 14g 26n 14h 26o 14i 26p 14j 26q 14k 26r 14l 26s 14m 1h6 14n 1S0 14o ~5j 14p ~5j 14q ~5j 14r ~5j 14s ~5j 14t ~5j 14u ~5j 14v ~5j 14w ~5j 14x ~5j 14y ~5j 14z ~5j 14A ~5j 14B ~5j 14C ~5j 14D ~5j 14E ~5j 14F ~5j 14G ~5j 14H ~5j 14I ~5j 14J ~5j 14K ~5j 14L ~5j 14M ~5j 14N ~5j 14O ~5j 14P ~5j 14Q ~5j 14R ~5j 14S ~5j 14T ~5j 14U ~5j 14V ~5j 14W ~5j 14X ~5j 14Y ~5j 14Z ~5j 150 ~5j 151 ~5j 152 ~5j 153 ~5j 154 ~5j 155 ~5j 156 ~5j 157 ~5j 158 ~5j 159 ~5j 15a ~5j 15b ~5j 15c ~5j 15d ~5j 15e ~5j 15f ~5j 15g ~5j 15h ~5j 15i ~5j 15j ~5j 15k ~5j 15l ~5j 15m ~5j 15n ~5j 15o ~5j 15p ~5j 15q ~5j 15r ~5j 15s ~5j 15t ~5j 15u ~5j 15v ~5j 15w ~5j 15x ~5j 15y ~5j 15z ~5j 15A ~5j 15B ~5j 15C ~5j 15D ~5j 15E ~5j 15F ~5j 15G ~5j 15H ~5j 15I ~5j 15J ~5j 15K ~5j 15L ~5j 15M ~5j 15N ~5j 15O ~5j 15P ~5j 15Q ~5j 15R ~5j 15S ~5j 15T ~5j 15U ~5j 15V ~5j 15W ~5j 15X ~5j 15Y ~5j 15Z ~5j 160 ~5j 161 ~5j 162 ~5j 163 ~5j 5N ~5j 5M ~5j 164 ~5j 165 ~5j 166 ~5j 167 ~5j 168 ~5j 169 ~5j 16a ~9J 16b ~9J 16c ~9J eX 1sO 16d 26t 16e 26u 16f 26v 16g 26w 16h 26x 16i 26y 16j 26z 16k 26A 16l 24x NL 3a 107 ~59 108 ~59 10a ~59 10b ~59 10d ~59 109 ~59 10c ~7d 10e ~59 16m ~ns 16n ~ns 16o ~ns 16p ~ns Qv ~5j Qw ~5j Qx ~5j 16q 2gc 16r 2gd 16s 2ge n4 2gf 16t 2gg 16u 2gh 16v 2gi 16w 2gj 16x 2gk 16y 2gl 16z 2gm 16A 2gn 16B 2go 16C 2gp 16D 2gq 4x zL 4s zM 16E 1To 16F 2gr 16G ~8P 16H 2gs 16I 2gt 16J 2gu 16K 2gv 16L ~5j 16M ~5j 16N ~5j 16O 2gw 16P 2gx 16Q 2gy 16R 2gz 16S 2gA 16T 2gB 16U 2gC 16V 2gD 16W 2gE 16X 2gF 16Y 2gG 16Z 2gH 170 2gI 171 2gJ 172 43I 173 43J 174 43K 175 43L 176 ~5j 177 ~5j 178 ~5j 179 ~5j 17a ~5j 17b ~5j 17c ~5j 17d ~5j 17e ~5j 17f ~5j 17g ~5j 17h ~5j 17i ~5j 17j ~5j 17k ~5j 17l ~5j 17m ~5j 17n ~5j 17o ~5j 17p ~5j 17q ~5j 17r ~5j 17s ~5j 17t ~5j 17u ~5j\nM 58 N It a T 1 ~59 2 ~59 3 ~59 4 d6 5 2fB 6 ~59 8 ~9J 107 ~59 108 ~59 109 ~59 10a ~59 10b ~59 10d ~59 10c ~7d 10e ~59 os 39 3M 4v I4 4q JC 1P JK 2fC JD 2fD JI 2fE JJ 2fF JH 2fG JG 2fH JF 2fI JE 2fJ JM 2fK JN 2fL JL 2fM a ~8O 17v 2fN 10g 2fO 10h 2fP 10i 2fQ 10k 2fR 10l 2fS 10j 2fT 10m 2fU 10n 2fV 10o 2fW 10p 2fX 10r 2fY 10s 2fZ 17w ~7d 17x ~7d 10t 2g0 17y 268 10u 2g1 10w 2g2 10x 2g3 17z 2g4 10y ~8P 10z 2g5 10A 2g6\nM 58 N MH a V 1 ~59 2 ~7d 3 ~59 4 2cJ 5 2cK 6 ~59 7 ~59 8 ~9J or 1L vw 1N 4L 2l 106 34 os 39 It 3a nF 3n 3M 4v m7 4P 4y Sp FW ~5j FA ~5j Fn ~5j F2 ~5j cW 1JT k4 1pt k9 1py k7 1pw ka 1pz k6 1pv k5 1pu k8 1px 17A Ip a ~8O 17B ~5j 17C ~5j 17D ~5j 17E ~bb 17F ~bb 17G 2cL 17H 2cM 17I 2cN 17J 2cO 17K 2cP 17L 2cQ 17M 2cR 17N 2cS 17O 2cT 17P 2cU 17Q 2cV 17R 2cW 17S 2cX 17T 2cY 17U 2cZ 17V 2d0 17W 2d1 RT 2d2 17X 2d3 17Y 2d4\nM 58 N wu a 22 1 ~59 2 ~59 3 ~59 4 29Y 5 29Z 6 ~59 7 ~59 8 ~9J O 9I wh ~9J wF ~9J wG ~9J wH ~9J Rf 17A 8J 1CZ 3M 4v 17Z ~5j lf 1iM lh 1iO nF 3n 4L 2l sS 13 4B 9 a ~8O d6 2a0 180 ~8P nI ~bb 181 ~59 182 ~8O 183 ~5j 184 ~5j d7 2a1 d8 2a2 d9 2a3 185 2a4 186 ~7d 187 ~db 188 ~db 189 ~db 18a ~db 18b ~db 18c ~db 18d ~db 18e ~db 18f ~db 18g ~db 18h ~db 18i ~db 18j ~db 18k ~db 18l ~db 18m ~db 18n ~db 18o ~db 18p ~db 18q ~db 18r ~db 18s ~db 18t ~db 18u ~db 18v ~db 18w ~db 18x ~db 18y ~db 18z ~db 18A ~db 18B ~db 18C ~db 18D ~db 18E ~db 18F ~db 18G ~db 18H ~db 18I ~db 18J ~db 18K ~db 18L ~db 18M ~db 18N ~db 18O ~db 18P ~db 18Q ~db 18R ~db 18S ~db 18T ~db 18U ~db 18V ~db 18W ~db 18X ~db 18Y ~db 18Z ~db 190 ~8O 191 ~db 192 ~db 193 ~db 194 ~db 195 ~db 196 ~db 197 ~db 198 ~db 199 ~db 19a ~db 19b ~db 19c ~db 19d ~db 19e ~db 19f ~db 19g 2a5 19h 2a6 19i 2a7 19j 2a8 19k 2a9 19l 2aa 19m 2ab 19n 2ac 19o 2ad 19p 2ae 7f 2af 19q 2ag d4 2ah d5 2ai d0 2aj d1 2ak d2 2al d3 2am zu 2an\nM 58 N 19r a B 1 ~59 2 ~59 3 ~59 4 295 5 296 6 ~59 7 ~59 8 ~9J tW HL 19s 297 Mf 23 os 39 3M 4v 19t 58 m7 4P a ~8O 19u 298 19v 299 19w 29a 19x 29b 19y 29c 19z 29d 19A 29e 19B 29f 19C 29g 19D 29h 19E 56 19F dc 19G 29i 19H 29j 19I 29k 19J 29l Mh 29m 19K 29n 19L 29o 19M ~7d Oc 29p\nM 58 N 19N a 1b 1 ~59 2 ~59 3 ~59 4 27P 5 27Q 6 ~59 7 ~59 8 ~9J 11u ~59 55 ~59 tH 15 os 39 nF 3n 3M 4v vw 1N uZ 2n 19O ~9J 19P ~oB 19Q 27R 19R ~oB 19S 27S 19T 27T 19U ~oB 19V 27U 19W ~9J 19X ~9J 19Y 27V 19Z 27W 1a0 27X 1a1 27Y 1a2 27Z 1a3 280 1a4 281 1a5 282 1a6 283 1a7 284 1a8 285 1a9 286 1aa ~9J 1ab 287 1ac 288 1ad 289 1ae 28a 16k 28b 1af ~28b 12p 28c 12n 28d 1ag 28e 1ah 28f Nh 28g 1ai 28h 1aj 28i 1ak ~oB 1al ~oB 1am ~oB 1an ~oB 1ao ~9J 1ap 28j 1aq 28k 1ar 28l 1as 28m 1at 28n 1au 28o 1av 28p 1aw 28q 1ax ~9J 19N 28r 1ay ~oB 1az ~oB 1aA ~bb 1aB ~7d 1aC 28s 1aD 28t\nM 58 N 1aE a 5a 1 ~59 2 ~59 3 ~59 4 5a 5 23X I4 23Y 11Y 23Z 11Z 240 we 241 120 242 121 243 122 244 123 245 124 246 125 247 126 248 127 249 128 24a 129 24b 12a 24c 12b 24d 12c 24e 12d 24f 12e 24g 12f 24h 12g 24i 12h 24j 12i 24k 12j 24l 12k 24m z5 24n 12l 24o 12m 24p 12n 24q 12o 24r 12p 24s 12q 24t 12r 24u 12s 24v 12t 24w 16l 24x 12u 24y 12v 24z 12w 24A 12x 24B 12y 24C 12z 24D 12A 24E 12B 24F 12C 24G 12D 24H 12E 24I 12F 24J 12G 24K 12H 24L 12I 24M 12J 24N 12K 24O 12L 24P 12M 24Q 12N 24R 12O 24S 12P 24T 12Q 24U 12R 24V 12S 24W 12T 24X 12U 24Y 12V 24Z 12W 250 12X 251 12Y 252 12Z 253 130 254 131 255 132 256 133 257 134 258 135 259 136 25a up 25b 137 25c 138 25d 139 25e 13a 1h5 13b 25f 13c 25g 13d 25h 13e 25i 13f 25j 9E 25k eD 25l 13g 25m 13h 25n eE 25o 13i 25p GS 25q 13j 25r 13k 25s 13l 25t 13m 25u 13n 25v 13o 25w 13p 25x 13q 25y 13r 25z 13s 25A 13t 25B 13u 25C 13v 25D 13w 25E 13x 25F 13y 25G 13z 25H 13A 25I 13B 25J 13C 25K 13D 25L 13E 25M 13F 25N 13G 25O 13H 25P 13I 25Q 13J 25R 13K 25S 13L 25T 13M 25U 13N 25V 13O 25W 13P 1h7 13Q 25X 13R 25Y 13S 25Z 13T 260 13U 1h8 13V 261 13W 262 13X 263 13Y 264 13Z 265 140 266 141 267 17y 268 142 269 143 20F 144 26a 145 26b 146 26c 147 26d 148 26e 149 26f 14a 26g 14b 26h 14c 26i Y2 26j 14d 26k 14e 26l 14f 26m 14g 26n 14h 26o 14i 26p 14j 26q 14k 26r 14l 26s 14m 1h6 14n ~9J 14o ~5j 14p ~5j 14q ~5j 14r ~5j 14s ~5j 14t ~5j 14u ~5j 14v ~5j 14w ~5j 14x ~5j 14y ~5j 14z ~5j 14A ~5j 14B ~5j 14C ~5j 14D ~5j 14E ~5j 14F ~5j 14G ~5j 14H ~5j 14I ~5j 14J ~5j 14K ~5j 14L ~5j 14M ~5j 14N ~5j 14O ~5j 14P ~5j 14Q ~5j 14R ~5j 14S ~5j 14T ~5j 14U ~5j 14V ~5j 14W ~5j 14X ~5j 14Y ~5j 14Z ~5j 150 ~5j 151 ~5j 152 ~5j 153 ~5j 154 ~5j 155 ~5j 156 ~5j 157 ~5j 158 ~5j 159 ~5j 15a ~5j 15b ~5j 15c ~5j 15d ~5j 15e ~5j 15f ~5j 15g ~5j 15h ~5j 15i ~5j 15j ~5j 15k ~5j 15l ~5j 15m ~5j 15n ~5j 15o ~5j 15p ~5j 15q ~5j 15r ~5j 15s ~5j 15t ~5j 15u ~5j 15v ~5j 15w ~5j 15x ~5j 15y ~5j 15z ~5j 15A ~5j 15B ~5j 15C ~5j 15D ~5j 15E ~5j 15F ~5j 15G ~5j 15H ~5j 15I ~5j 15J ~5j 15K ~5j 15L ~5j 15M ~5j 15N ~5j 15O ~5j 15P ~5j 15Q ~5j 15R ~5j 15S ~5j 15T ~5j 15U ~5j 15V ~5j 15W ~5j 15X ~5j 15Y ~5j 15Z ~5j 160 ~5j 161 ~5j 162 ~5j 163 ~5j 5N ~5j 5M ~5j 164 ~5j 165 ~5j 166 ~5j 167 ~5j 168 ~5j 169 ~5j 16a ~9J 16b ~9J 16c ~9J eX 1sO 16d 26t 16e 26u 16f 26v 16g 26w 16h 26x 16i 26y 16j 26z 16k 26A 1aF ~8O 172 43I 173 43J 174 43K 175 43L 176 ~5j 177 ~5j 178 ~5j 179 ~5j 17a ~5j 17b ~5j 17c ~5j 17d ~5j 17e ~5j 17f ~5j 17g ~5j 17h ~5j 17i ~5j 17j ~5j 17k ~5j 17l ~5j 17m ~5j 17n ~5j 17o ~5j 17p ~5j 17q ~5j 17r ~5j 17s ~5j 17t ~5j 17u ~5j\nM 58 N 1aG a s 1 ~59 2 ~59 3 ~59 4 23a 5 23b 6 ~59 7 ~59 8 ~9J 3B 15 1aH 1l nF 3n m6 4v wU 4J 1aI 1yK a ~8O 1aG 23c 1aJ 23d 1aK 23e 1aL 23f 1aM 23g 1aN 23h 1aO 23i 1aP 23j 1aQ 23k 1aR ~i2 1aS 23l 1aT 23m 1aU 23n\nM 58 N 1aV a k 1 ~59 2 ~59 3 ~59 4 5a 5 22k 1aW 22l 1aX 22m eX 22n 1aY 22n 1aZ 22o 1b0 ~59 1b1 ~bb 1b2 ~59 AP 3i 1b3 3j 1b4 ~8O 1b5 ~5j 1b6 ~5j 1b7 ~5j 1b8 ~Kw\nM 58 N 1b9 a O 1 ~59 2 ~59 3 ~7d 4 ~7d 5 ~7d 1ba ~59 1bb ~59 1bc ~59 1bd ~59 1be ~59 1bf ~59 1bg ~59 1bh ~59 1bi ~59 1bj ~59 1bk ~59 1bl ~59 1bm ~59 1bn ~59 1bo ~59 1bp ~59 1bq ~59 1br ~59 1bs ~59 1bt ~59 1bu ~59 1bv ~59 1bw ~59 1bx ~59 1by ~59 1bz ~59 1bA ~59 1bB ~59 1bC ~59 1bD ~59 1bE ~59 1bF ~59 1bG ~59 1bH ~59 1bI ~59 1bJ ~59 1bK ~59 1bL ~59 1bM ~59 1bN ~59 1bO ~59 1bP ~59 1bQ ~59 1bR ~9J 1bS ~9J\nM 58 N 1bT a f 1 ~59 2 ~59 3 ~7d 4 ~7d 5 ~7d 1bU ~5j 1bV ~5j 1bW ~5j 1bX ~5j 1bY ~5j 1bZ ~5j 1c0 ~5j 1c1 ~5j 1c2 ~5j 1c3 ~5j\nM 58 N uU a m 1 ~59 2 ~59 3 ~59 4 21q 5 21r 6 ~59 7 ~59 8 ~9J uz 4z uA 4J 3D RI 9c 21s 9e 21t 5T 17b de 21u a ~8O dd 21v Zi 21w uX 21x 1c4 21y 1c5 21z 1c6 21A\nM 58 N CU a o 1 ~59 2 ~59 3 ~59 4 21d 5 21e 6 ~59 7 ~59 8 ~9J a ~8O TU ~db ok ~5j 1c7 ~db Bf ~db oQ 21f oR 21g 1c8 21h Bo 21i 31 21j 1c9 21k 32 21l BI 21m 1ca 21n 1cb 21o nz 21p\nM 58 N Di a 14 1 ~59 2 ~59 3 ~59 4 20y 5 20z 6 ~59 7 ~59 8 ~9J 1cc F5 1cd 1kz 1ce 1kx 1cf ~17I 1cg ~17I 1ch 1Rt 1ci 1kv 1cj 20A 1ck 20B 1cl 20C 1cm ~17I 1cn 20D 1co 20E 1cp 20F 1cq Rk 1cr Sp 1cs 20G 1ct 20H tL 1kr 2E 1kt 7G 39 df y dh 20I a ~8O 1cu ~17I 1cv ~17I 1cw ~17I 1cx ~5j 1cy ~17I 1cz ~5j dg 1cw 1cA 1Ad 1cB 1JO 1cC 20J Di 20K 1cD 20L 1cE 20M 1cF 1IP 1cG 20N 1cH 20O 1cI 20P 1cJ 20Q 1cK 20R 1cL 20S 1cM 20T 1cN 20U 1cO 20V 1cP 20W 1cQ 20X 1cR 20Y 1cS 20Z 1cT 210 1cU 211 1cV 212 1cW 213 1cX 214 1cY 215 zu 216\nM 58 N nF a Z 1 ~59 2 ~59 3 ~59 4 208 5 209 tI ~8O 6 ~59 7 ~59 8 ~9J DS 1G 1cZ 3q 1d0 3r 1d1 3o 1d2 3p vw 1N a ~8O 55 ~59 1d3 1jP 1d4 1jQ 1d5 1jQ 1d6 1j9 1d7 1j9 1d8 1jR 1d9 1jR 18p 1jS 1da 1jS 1db 1jT 1dc 1jT 1dd 1jU 1de 1jU 1df 1jV 1dg 1jV 1dh 1jW 1di 1jW UZ 1jX 1dj 1jk eX 1XD 1dk 20a 1dl 20b 1dm 20c ce 20d 1dn 20e 10k 20f 1do 20g 1dp 20h jS 20i 1dq 20j 1dr 20k 1ds ~9J KM 20l 1dt oB 14 Nu DH ~9J 1du ~5j tF 20m 1dv 20n 1dw 20o 1dx 20p wt 1h cZ 20q 1dy 20r\nM 58 N 1dz a 9 1 ~59 2 ~7d 3 ~59 4 206 5 207 6 ~59 7 ~59 8 ~9J 1dA ~9J\nM 58 N 1dB a 2e 1 ~59 2 ~59 3 ~59 4 1ZN 5 1ZO 6 ~59 7 ~59 8 ~9J jR D 1d0 3r jY ~5j k0 1XC k1 ~5j eX 1XD YE 1XE 1dC 1XF 1dD 1XG 1dE 1XH 1dF 1XI 1dG 1XJ 1dH 1XK 1dI 1XL 1dJ 1XM 1dK 1XN 1dL 1XO 1dM 1XP 1dN 1XQ 1dO 1XR UY 1XS 1dP 1XT 1dQ 1XU 187 1XV 1dR 1XW 1dS 1XX 1dT 1XY 1dU 1XZ 1dV 1Y0 1dW 1Y1 1dX 1Y2 1dY 1Y3 1dZ 1Y4 1e0 1Y5 1e1 1Y6 1e2 1Y7 1e3 1Y8 1e4 1Y9 1e5 1Ya 1e6 1Yb 1e7 1Yc 1e8 1Yd 1e9 1Ye 1ea 1Yf 1eb 1Yg 1ec 1Yh 1ed 1Yi 1ee 1Yj 1ef 1Yk 1eg 1Yl 1eh 1Ym 1ei ~8O 1ej 1Yn 1ek 1Yo 1el 1Yp 1em 1Yq 1en 1Yr 1eo 1Ys 1ep 1Yt 1eq 1Yu 1er 1Yv 1es 1Yw 1et 1Yx 1eu 1Yy 1ev ~8O 1ew 1Yz 1ex 1YA 1ey 1YB 1ez 1YC 1eA 1YD 1eB 1YE 1eC 1YF 1eD 1YG 1eE 1YH 1eF 1YI 1eG 1YJ 1eH 1YK 1eI 1YL 1eJ 1YM 1eK 1YN 1eL 1YO 1eM 1YP 1eN 1YQ 1eO ~8O 1eP ~9J 1eQ ~9J 1eR ~9J 1eS ~9J 1eT ~9J 1eU ~9J 1eV ~9J 1eW ~9J 1eX ~5j 1eY ~5j 1eZ ~5j 1f0 ~5j 1f1 ~5j 1f2 ~5j 1f3 ~5j 1f4 ~5j 1f5 ~5j 1f6 ~5j 1f7 ~5j 1f8 ~5j 1dA ~9J 1f9 ~ns 1fa ~ns 1fb ~ns 1fc ~ns 1fd ~9J 1fe 1ZP tF 1ZQ 1ff 1ZR 1fg 1ZS 1fh ~5j 1fi ~5j 1fj ~db 1fk 1ZT 1fl 1ZU 1fm 1ZV 1fn 1ZW 1fo 1ZX 1fp 1ZY 1fq 1ZZ 1fr 200 1fs 201 1ft 202 1fu 203 zv 204 jS 205\nM 58 N 1fv a 1O 1 ~59 2 ~59 3 ~59 4 1ZK 5 1ZL 6 ~59 7 ~59 8 ~9J jY ~5j k0 1XC k1 ~5j eX 1XD 1fw 1ZD 1fx 1ZM YE 1XE 1dC 1XF 1dD 1XG 1dE 1XH 1dF 1XI 1dG 1XJ 1dH 1XK 1dI 1XL 1dJ 1XM 1dK 1XN 1dL 1XO 1dM 1XP 1dN 1XQ 1dO 1XR UY 1XS 1dP 1XT 1dQ 1XU 187 1XV 1dR 1XW 1dS 1XX 1dT 1XY 1dU 1XZ 1dV 1Y0 1dW 1Y1 1dX 1Y2 1dY 1Y3 1dZ 1Y4 1e0 1Y5 1e1 1Y6 1e2 1Y7 1e3 1Y8 1e4 1Y9 1e5 1Ya 1e6 1Yb 1e7 1Yc 1e8 1Yd 1e9 1Ye 1ea 1Yf 1eb 1Yg 1ec 1Yh 1ed 1Yi 1ee 1Yj 1ef 1Yk 1eg 1Yl 1eh 1Ym 1ei ~8O 1ej 1Yn 1ek 1Yo 1el 1Yp 1em 1Yq 1en 1Yr 1eo 1Ys 1ep 1Yt 1eq 1Yu 1er 1Yv 1es 1Yw 1et 1Yx 1eu 1Yy 1ev ~8O 1ew 1Yz 1ex 1YA 1ey 1YB 1ez 1YC 1eA 1YD 1eB 1YE 1eC 1YF 1eD 1YG 1eE 1YH 1eF 1YI 1eG 1YJ 1eH 1YK 1eI 1YL 1eJ 1YM 1eK 1YN 1eL 1YO 1eM 1YP 1eN 1YQ 1eO ~8O 1eP ~9J 1eQ ~9J 1eR ~9J 1eS ~9J 1eT ~9J 1eU ~9J 1eV ~9J 1eW ~9J 1eX ~5j 1eY ~5j 1eZ ~5j 1f0 ~5j 1f1 ~5j 1f2 ~5j 1f3 ~5j 1f4 ~5j 1f5 ~5j 1f6 ~5j 1f7 ~5j 1f8 ~5j\nM 58 N 1fy a 2e 1 ~59 2 ~59 3 ~59 4 1XA 5 1XB 6 ~59 7 ~59 8 ~9J jY ~5j k0 1XC k1 ~5j eX 1XD YE 1XE 1dC 1XF 1dD 1XG 1dE 1XH 1dF 1XI 1dG 1XJ 1dH 1XK 1dI 1XL 1dJ 1XM 1dK 1XN 1dL 1XO 1dM 1XP 1dN 1XQ 1dO 1XR UY 1XS 1dP 1XT 1dQ 1XU 187 1XV 1dR 1XW 1dS 1XX 1dT 1XY 1dU 1XZ 1dV 1Y0 1dW 1Y1 1dX 1Y2 1dY 1Y3 1dZ 1Y4 1e0 1Y5 1e1 1Y6 1e2 1Y7 1e3 1Y8 1e4 1Y9 1e5 1Ya 1e6 1Yb 1e7 1Yc 1e8 1Yd 1e9 1Ye 1ea 1Yf 1eb 1Yg 1ec 1Yh 1ed 1Yi 1ee 1Yj 1ef 1Yk 1eg 1Yl 1eh 1Ym 1ei ~8O 1ej 1Yn 1ek 1Yo 1el 1Yp 1em 1Yq 1en 1Yr 1eo 1Ys 1ep 1Yt 1eq 1Yu 1er 1Yv 1es 1Yw 1et 1Yx 1eu 1Yy 1ev ~8O 1ew 1Yz 1ex 1YA 1ey 1YB 1ez 1YC 1eA 1YD 1eB 1YE 1eC 1YF 1eD 1YG 1eE 1YH 1eF 1YI 1eG 1YJ 1eH 1YK 1eI 1YL 1eJ 1YM 1eK 1YN 1eL 1YO 1eM 1YP 1eN 1YQ 1eO ~8O 1eP ~9J 1eQ ~9J 1eR ~9J 1eS ~9J 1eT ~9J 1eU ~9J 1eV ~9J 1eW ~9J 1eX ~5j 1eY ~5j 1eZ ~5j 1f0 ~5j 1f1 ~5j 1f2 ~5j 1f3 ~5j 1f4 ~5j 1f5 ~5j 1f6 ~5j 1f7 ~5j 1f8 ~5j 1fz ~59 1fA ~59 1fB ~i2 1fC ~i2 1fD ~i2 1fE ~i2 TM ~i2 1fF ~i2 1fG ~i2 1fH ~9J 1fI ~9J TD ~9J 1fJ ~5j 1fK ~5j 1fL ~5j 1fM 1YR 1fN 1YS 1fO 1YT 1fP 1YU 1fQ 1YV 1fR 1YW 1fS 1YX Kb 1YY 1fT 1YZ 1fU 1Z0 mT 1Z1 1fV 1Z2 1fW 1Z3\nM 58 N 1fX a h 1 ~59 2 ~59 3 ~59 4 1Xd 5 1Xe 6 ~59 7 ~59 8 ~9J a ~8O oV X Rf 17A lr 17E IE 1Xf 1fY 1Xg 1fZ 1Xh 1g0 1Xi pu 1Xj\nM 58 N 1g1 a 1c 1 ~59 2 ~59 3 ~59 4 1X7 5 1X8 tI ~8O 6 ~59 7 ~59 8 ~9J RL ~9J os 39 SK Ni Sp ~8P Nv Le 4q Mz MX Lm 5x Ll 1g2 3y 1g3 1WY a ~8O 1g4 ~7d 1g5 ~59 1g6 1Mz 1g7 1X9 pt 1Xa 1g8 1Xb ya 1Xc 1g9 3C AP 3T 1ga 3M 1gb 40 1gc 3D pu 45 1gd 4c 1ge 3L 1gf 49 1gg 3R 1gh 4e 1gi 4f 1gj 3v 1gk 3w 1gl 3x 1gm 3z 1gn 3B 1go 3E 1gp 3u 1gq 3K 6Q 3G 1gr 48 1gs 3V 1gt 43 1gu 3X 1gv 3O 1gw 3I 1gx 3P 1gy 3Q 1gz 3S 1gA 4d 1gB 3A 1gC 3U 1gD 3W 1gE 3Z lY 3H 1gF 42 1gG 44 1gH 3J 1gI 3Y 1gJ 41 1gK 3F 1gL 4b 1gM 46 1gN 47 1gO 4a 1gP 3N\nM 58 N 1gQ a 9 1 ~59 2 ~7d 3 ~59 4 1X5 5 1X6 6 ~59 7 ~59 8 ~9J 1gR ~8O\nM 58 N 1gS a 9 1 ~59 2 ~7d 3 ~59 4 1X3 5 1X4 6 ~59 7 ~59 8 ~9J 1gT ~9J\nM 58 N 1gU a h 1 ~59 2 ~7d 3 ~59 4 1X1 5 1X2 6 ~59 7 ~59 8 ~9J 4q Mz 14 No MX Lm nF 3n 1gT ~9J 1gV 1Pz 1gW 1PA 1gX 1PB 1gk 1Pw\nM 58 N 1gY a c 1 ~59 2 ~7d 3 ~59 4 1WZ 5 1X0 6 ~59 7 ~59 8 ~9J 1gZ ~59 1h0 ~59 1h1 ~59 1h2 ~59\nM 58 N 1h3 a a 1 ~59 2 ~7d 3 ~59 4 1WW 5 1WX 6 ~59 7 ~59 8 ~9J Nv Le 1g3 1WY\nM 58 N 1h4 a c 1 ~59 2 ~7d 3 ~59 4 1WU 5 1WV 6 ~59 7 ~59 8 ~9J v 11f SK Ni 4q Mz 1h5 1Rv\nM 58 N 1h6 a j 1 ~59 2 ~7d 3 ~59 4 1WS 5 1WT 6 ~59 7 ~59 8 ~9J 5S 11h 4g Mt 1G MI MX Lm Sp ~8P 5x Ll 4q Mz O8 1Dh 1h7 1De 1h8 1Rw 1h9 1Rx\nM 58 N 1ha a f 1 ~59 2 ~7d 3 ~59 4 1WO 5 1WP 6 ~59 7 ~59 8 ~9J 4g Mt 1H MH Nx Lw 1di 1WQ 1hb 1WR 1hc 1D2 1hd 1Hf\nM 58 N 1he a h 1 ~59 2 ~7d 3 ~59 4 1WM 5 1WN 6 ~59 7 ~59 8 ~9J 1hf WP SK Ni 4g Mt 4h Mu 1G MI MX Lm 1hg MZ 1hh 1Ru 1hi ~1Ru\nM 58 N 1hj a c 1 ~59 2 ~7d 3 ~59 4 1WK 5 1WL 6 ~59 7 ~59 8 ~9J 1hk 1Gv 1hl 1VF 1hm 1VE 1hn 1VD\nM 58 N 1ho a a 1 ~59 2 ~7d 3 ~59 4 1WI 5 1WJ 6 ~59 7 ~59 8 ~9J MX Lm 1hp 1D3\nM 58 N 1hq a k 1 ~59 2 ~7d 3 ~59 4 1WB 5 1WC 6 ~59 7 ~59 8 ~9J 3M 4v ID 1ko WR 1Rt xK M0 1G MI MX Lm 4y ME Nw LW 1hr 1WD 1hs 1WE 1ht 1Hh 1hu 1Hg\nM 58 N 1hv a h 1 ~59 2 ~7d 3 ~59 4 1Wy 5 1Wz 6 ~59 7 ~59 8 ~9J v 11f nF 3n 4g Mt 1hc 1D2 1hw 1D6 1hx 1VR 1hy ~oB 1hz 1WA 1hA 1D4\nM 58 N 1hB a a 1 ~59 2 ~7d 3 ~59 4 1Ww 5 1Wx 6 ~59 7 ~59 8 ~9J m3 QU 1hC 1MA\nM 58 N 1hD a n 1 ~59 2 ~7d 3 ~59 4 1We 5 1Wf 6 ~59 7 ~59 8 ~9J 3M 4v Rg 1Wg Sp ~8P 4g Mt MX Lm To Ln 1hE 1Ri 1hF 1Db 1hG 1Dc 1hH 1Dd 1hI 1Bn 1hJ 1D5 1hK 1Hi 1hL 1Ry 1hM 1Wh\nM 58 N 1hN a B 1 ~59 2 ~7d 3 ~59 4 1VU 5 1VV 6 ~59 7 ~59 8 ~9J RL ~9J 3M 4v Sp ~8P 4g Mt 1G MI To Ln 1hc 1D2 1hO 1P2 1d4 1VW 1hP 1VX 1hQ 1VY 1hR 1VZ 1hS 1W0 1hT 1W1 1hU 1W2 1hV 1W3 1hW 1W4 1hX 1W5 1hY 1W6 1hZ 1W7 1i0 1P1 1i1 1W8 1i2 1W9 1i3 1Wa 1i4 1Wb 1i5 1Wc 1i6 1Wd 1i7 ~9J 1i8 ~9J\nM 58 N 1i9 a k 1 ~59 2 ~7d 3 ~59 4 1VO 5 1VP 6 ~59 7 ~59 8 ~9J v 11f nF 3n J2 11m 4q Mz 1gR ~8O 1ia 1JU 1ib 1JV 1hw 1D6 1ic 1JW 1id 1VQ 1ie 1D7 1hx 1VR\nM 58 N 1if a x 1 ~59 2 ~7d 3 ~59 4 1VA 5 1VB 6 ~59 7 ~59 8 ~9J 19N 3e nF 3n u8 1VC mQ 1qg J2 11m Sp ~8P 1ig N9 MX Lm 1H MH 1hn 1VD 1hm 1VE 1hl 1VF 1ih 1Gu 1ii 1IU 1ij 1IV 1ik 1Gy 1il ~8P 1im 1IS 1in 1VG 1io ~9J 1ip 1IR 1iq ~oB 1ir 1IQ 1is 1VH 1it 1IT\nM 58 N 1iu a b 1 ~59 2 ~7d 3 ~59 4 1Vy 5 1Vz 6 ~59 7 ~59 8 ~9J 1ig N9 1H MH 1ih 1Gu\nM 58 N 1iv a 23 1 ~59 2 ~7d 3 ~59 4 1Ro 5 1Rp 6 ~59 7 ~59 8 ~9J RL ~9J ya 2k os 39 19N 3e 3M 4v uz 4z KV 57 m3 QU 3L KP yW 1Hc yu 1Hd 5S 11h vV 1Rq JX 1Rr KM 1Rs Oy 1Mq Rf 17A WR 1Rt 1iw 17b 1ix WQ 19t 58 1hf WP SK Ni Sp ~8P Nv Le 4q Mz 1o MS 4g Mt 1G MI 4s MC 1ig N9 MX Lm O3 Nk 1H MH 1hg MZ 5x Ll xK M0 1hi ~1Ru To Ln Nw LW O9 LZ AP 3T 1gi 4f 1gk 1Pw 1gZ ~59 1h0 ~59 1h5 1Rv 1h8 1Rw 1h9 1Rx 1hL 1Ry 1hJ 1D5 1im 1IS 1it 1IT 1iy 1QA 1iz 1Da 1iA 1Q2 1iB 1LC 1iC 1PE 1hG 1Dc 1iD 1P3 1iE 1Pi 1iF 1Pj 1iG 1LE 1iH 1MM 1iI 1Mr 1iJ 1Mb 1iK 1LF 1iL 1Lv 1hH 1Dd 1iM 1Bm 1hI 1Bn 1iN 1IF 1ik 1Gy 1iO 1GC 1iP 1Gx O8 1Dh 1h7 1De 1iQ 1AU 1iR 1Bp 1iS ~5j 1iT ~5j 1il ~8P 1iU 1Rz 1iV 1RA 1iW 1RB 1iX 1RC 1iY ~1RC 1iZ ~5j 1j0 ~5j 1j1 ~5j 1j2 ~bb 1j3 ~bb 1j4 ~9J 1j5 1RD 1j6 1RE 1j7 1RF 1j8 1RG 1j9 1RH 1ja 1RI 1jb 1RJ 1jc 1RK 1jd 1RL 1je 1RM 1jf 1RN 1jg 1RO 1jh 1RP 1ji 1RQ 1jj 1RR 1jk 1RS 1jl 1RT 1jm ~9J 1jn ~9J 1jo 1RU 1jp 1RV 1jq ~7d 1jr 1RW 1js 1RX Tp 1RY 1jt 1RZ\nM 58 N 1ju a d 1 ~59 2 ~7d 3 ~59 4 1Rg 5 1Rh 6 ~59 7 ~59 8 ~9J MX Lm Sp ~8P 1hF 1Db 1hG 1Dc 1hE 1Ri\nM 58 N 1jv a m 1 ~59 2 ~7d 3 ~59 4 1QY 5 1QZ 6 ~59 7 ~59 8 ~9J Ri 1R0 Sp ~8P 4g Mt 4h Mu 1G MI MX Lm Nx Lw 5x Ll 1jw Mb 1hw 1D6 1hG 1Dc 1di 1R1 1jx 1R2 1jy 1D8\nM 58 N 1jz a s 1 ~59 2 ~7d 3 ~59 4 1Qy 5 1Qz 6 ~59 7 ~59 8 ~9J RL ~9J 3M 4v 5T 4A Sp ~8P 4q Mz 1o MS 4g Mt 1G MI 5x Ll 1jA Lk 1jB 1JZ 1jC 1JY 1hH 1Dd 1jD ~8O 1jE ~9J 1jF ~9J 1jG ~9J 1iy 1QA 1jH 1D9 1jI 1QB\nM 58 N 1jJ a c 1 ~59 2 ~7d 3 ~59 4 1Qw 5 1Qx 6 ~59 7 ~59 8 ~9J RL ~9J 1o MS 1iM 1Bm 1jK ~9J\nM 58 N 1jL a l 1 ~59 2 ~7d 3 ~59 4 1Qh 5 1Qi 6 ~59 7 ~59 8 ~9J 3M 4v Sp ~8P MX Lm 5x Ll 1hF 1Db 1hH 1Dd 1iM 1Bm 1gT ~9J 1gk 1Pw To Ln 1iz 1Da 1jM 1Qj 1jN 1Qk\nM 58 N 1jO a h 1 ~59 2 ~7d 3 ~59 4 1Q7 5 1Q8 6 ~59 7 ~59 8 ~9J 1jP 1PS 1jQ 1Q9 1jR 1Qa 1jS 1Qb 1jT 1Qc 1jU 1Qd 1jV 1Px 1jW 1Qe 1jX 1Qf\nM 58 N 1jY a m 1 ~59 2 ~7d 3 ~59 4 1PZ 5 1Q0 6 ~59 7 ~59 8 ~9J nF 3n m3 QU 3L KP 1G MI 5x Ll 1jZ 1Dg O8 1Dh 1k0 1Q1 1k1 1LX 1iA 1Q2 1k2 1LW 1iB 1LC 1k3 1Q3 1k4 1Q4\nM 58 N 1k5 a n 1 ~59 2 ~7d 3 ~59 4 1PU 5 1PV 6 ~59 7 ~59 8 ~9J Sp ~8P Nv Le 1o MS 4g Mt 1G MI 4y ME 1g6 1Mz 1hH 1Dd 1ik 1Gy 1k6 ~59 1k7 1MB 1hF 1Db 1k8 1PW 1k9 1PX pt 1PY\nM 58 N 1ka a y 1 ~59 2 ~7d 3 ~59 4 1Pt 5 1Pu 6 ~59 7 ~59 8 ~9J nF 3n mU 1Pv cW 1JT 4q Mz 4g Mt 1G MI 14 No 1ig N9 MX Lm 1H MH 5x Ll 1gk 1Pw 1iz 1Da 1jV 1Px 1iM 1Bm 1jZ 1Dg O8 1Dh 1kb ~oB 1kc ~oB 1kd 1Py 1gV 1Pz 1gW 1PA 1ke 1PB KM 1PC Kb 1PD 1kf 1PE\nM 58 N 1kg a j 1 ~59 2 ~7d 3 ~59 4 1Pr 5 1Ps 6 ~59 7 ~59 8 ~9J cX 1D1 Sp ~8P 4q Mz 1ig N9 MX Lm 4y ME AP 3T 1kh 1Hl 1iI 1Mr 1hG 1Dc 1iD 1P3\nM 58 N 1ki a k 1 ~59 2 ~7d 3 ~59 4 1Pp 5 1Pq 6 ~59 7 ~59 8 ~9J xK M0 1G MI MX Lm 1H MH Sp ~8P 5x Ll 1hF 1Db 1hG 1Dc 1iM 1Bm 1hH 1Dd 1kj 1Hk 1kk 1Hj\nM 58 N 1kl a d 1 ~59 2 ~7d 3 ~59 4 1Pg 5 1Ph 6 ~59 7 ~59 8 ~9J m3 QU 3L KP Nv Le 1iE 1Pi 1iF 1Pj\nM 58 N 1km a f 1 ~59 2 ~7d 3 ~59 4 1Pe 5 1Pf 6 ~59 7 ~59 8 ~9J sw 1kv J2 11m 4y ME 1H MH Sp ~8P 1ih 1Gu 1hk 1Gv\nM 58 N 1kn a p 1 ~59 2 ~7d 3 ~59 4 1OZ 5 1P0 6 ~59 7 ~59 8 ~9J Sp ~8P MX Lm 1hJ 1D5 1i0 1P1 1hO 1P2 1hw 1D6 1hF 1Db 1hG 1Dc 1iD 1P3 1kk 1Hj 1kj 1Hk 1hH 1Dd 1iM 1Bm 1hI 1Bn O8 1Dh 1h7 1De 1ko 1LD\nM 58 N 1kp a 1a 1 ~59 2 ~7d 3 ~59 4 1Ms 5 1Mt 6 ~59 7 ~59 8 ~9J RL ~9J oV X tH 15 y9 1l ya 2k os 39 3M 4v mJ 1Mu tX PS tZ 1Mv u0 1Mw 3E KQ 3D RI yW 1Hc yX 1Mx yZ 1My Oy 1Mq Rf 17A DU WI Sp ~8P Nv Le 4q Mz 1kq MT 1o MS 4g Mt 1G MI MX Lm 4y ME 1p MK 1H MH 5x Ll 1kr 1IU 1ks ~8P 1g6 1Mz 1hc 1D2 1hp 1D3 1hC 1MA 1hw 1D6 1iB 1LC 1hF 1Db 1k7 1MB 1hG 1Dc O8 1Dh 1kt 1MC 1ku 1MD 1kv 1ME 1kw 1MF 1kx 1MG 1ky 1MH 1kz 1MI Kk 1MJ 1iG 1LE 1kA 1MK 1kB 1ML 1kC ~9J 1kD ~bb 1kE ~bb 1iH 1MM 1kF 1MN 1kG 1MO 1kH 1MP 1kI 1MQ 1kJ 1MR 1aG 1MS\nM 58 N 1kK a g 1 ~59 2 ~7d 3 ~59 4 1Mo 5 1Mp 6 ~59 7 ~59 8 ~9J Nv Le xK M0 1p MK Sp ~8P Oy 1Mq 1kL ~59 1kh 1Hl 1iI 1Mr\nM 58 N 1kM a a 1 ~59 2 ~7d 3 ~59 4 1M9 5 1Ma 6 ~59 7 ~59 8 ~9J 1ig N9 1iJ 1Mb\nM 58 N 1kN a q 1 ~59 2 ~7d 3 ~59 4 1M3 5 1M4 6 ~59 7 ~59 8 ~9J ya 2k 8J 1CZ Nv Le 4q Mz 4g Mt 1G MI MX Lm 1H MH 1hg MZ Nx Lw 5x Ll 1jw Mb 1di 1M5 1ii 1IU 1kr 1IU 1kO 1M6 mR 1M7 1ij 1IV\nM 58 N 1kP a k 1 ~59 2 ~7d 3 ~59 4 1LA 5 1LB 6 ~59 7 ~59 8 ~9J 4s zM Sp ~8P Nv Le MX Lm 1H MH 1iB 1LC 1ko 1LD 1iG 1LE 1kQ 1Hp O8 1Dh 1h7 1De 1iK 1LF\nM 58 N 1kR a e 1 ~59 2 ~7d 3 ~59 4 1Lt 5 1Lu 6 ~59 7 ~59 8 ~9J MX Lm Sp ~8P 1hH 1Dd 1hI 1Bn 1hc 1D2 1iL 1Lv\nM 58 N 1kS a B 1 ~59 2 ~7d 3 ~59 4 1JP 5 1JQ 6 ~59 7 ~59 8 ~9J mQ 1qg J2 11m I5 1JR VO 1JS cW 1JT Sp ~8P 1o MS 4g Mt 1G MI 1ig N9 MX Lm 4y ME 1H MH 1hg MZ 5x Ll 1ia 1JU 1ib 1JV 1hw 1D6 1ic 1JW 1ie 1D7 1ii 1IU 1ij 1IV 1iM 1Bm sp 1JX 1jC 1JY 1jB 1JZ 1hH 1Dd 1kT 1K0 1kU 1K1\nM 58 N 1kV a z 1 ~59 2 ~7d 3 ~59 4 1IL 5 1IM 6 ~59 7 ~59 8 ~9J 3M 4v J2 11m d1 1IN d3 1IO 1cF 1IP Nv Le 1o MS 4g Mt 1G MI MX Lm 1hg MZ 5x Ll xK M0 AP 3T 1ir 1IQ 1ip 1IR 1im 1IS 1it 1IT 1ii 1IU 1ij 1IV 1ik 1Gy 1iP 1Gx 1hI 1Bn 1kW 1CP 1iM 1Bm 1kX ~1Bm 1kY 1IW\nM 58 N 1kZ a d 1 ~59 2 ~7d 3 ~59 4 1ID 5 1IE 6 ~59 7 ~59 8 ~9J Sp ~8P 1hG 1Dc 1hH 1Dd 1hI 1Bn 1iN 1IF\nM 58 N 1l0 a G 1 ~59 2 ~7d 3 ~59 4 1Ha 5 1Hb 6 ~59 7 ~59 8 ~9J yW 1Hc yu 1Hd z5 1He Sp ~8P 1o MS 4g Mt 1G MI 1ig N9 MX Lm 4y ME 1H MH 5x Ll 1gH 3J AP 3T 1hd 1Hf 1hc 1D2 1hp 1D3 1hu 1Hg 1ht 1Hh 1hK 1Hi 1hF 1Db 1hG 1Dc 1kk 1Hj 1kj 1Hk 1kh 1Hl 1hH 1Dd 1iM 1Bm 1hI 1Bn O8 1Dh 1h7 1De 1l1 1Hm 1l2 1Hn 1l3 1Ho 1kQ 1Hp\nM 58 N 1l4 a k 1 ~59 2 ~7d 3 ~59 4 1Gs 5 1Gt 6 ~59 7 ~59 8 ~9J 1G MI MX Lm 1H MH 1ih 1Gu 1hk 1Gv 1l5 1Gw 1iP 1Gx 1ik 1Gy 1l6 1Gz 1l7 1GA 1l8 1GB 1iO 1GC\nM 58 N 1l9 a J 1 ~59 2 ~7d 3 ~59 4 1CX 5 1CY 6 ~59 7 ~59 8 ~9J RL ~9J nF 3n 8J 1CZ 8H 1kB X6 1D0 cX 1D1 Sp ~8P Nv Le 4q Mz 1o MS 4g Mt 1G MI 1ig N9 MX Lm 1H MH 5x Ll 1hc 1D2 1hp 1D3 1hA 1D4 1hJ 1D5 1hw 1D6 1ie 1D7 1jy 1D8 1jH 1D9 1iz 1Da 1hF 1Db 1hG 1Dc 1hH 1Dd 1iM 1Bm 1hI 1Bn 1la ~59 1lb ~59 1lc ~oB 1h7 1De 1ld 1Df 1jZ 1Dg O8 1Dh\nM 58 N 1le a k 1 ~59 2 ~7d 3 ~59 4 1Bk 5 1Bl 6 ~59 7 ~59 8 ~9J vu 1d 1o MS 1G MI SK Ni 4s MC MX Lm 1jK ~9J 1iM 1Bm 1hI 1Bn 1iQ 1AU 1lf 1Bo 1iR 1Bp\nM 58 N 1lg a b 1 ~59 2 ~7d 3 ~59 4 1AS 5 1AT 6 ~59 7 ~59 8 ~9J 1jK ~9J 1iQ 1AU 1lh 1AV\nM 58 N 1li a i 1 ~59 2 ~59 3 ~59 4 1Aq 5 1Ar 6 ~59 7 ~59 8 ~9J 5T 4A Lv 1X tW HL Rh zj uz 4z 1lj 17b a ~8O XP 1As PO ~5l 1lk 1At\nM 58 N 1ll a l 1 ~59 2 ~59 3 ~59 4 1Aa 5 1Ab 6 ~59 7 ~59 8 ~9J a ~8O nE T nH V 8Q 1Ac 1cA 1Ad 1lm 1Ae 1ln 1Af 1cG 1Ag 1lo 1Ah 1lp ~5j 1lq 1Ai 1lr 1Aj 1ls 1Ak\nM 58 N 1lt a B 1 ~59 2 ~59 3 ~59 4 5a 5 1A9 1lt 1zP 1lu 1i8 eX 1sO 1lv ~5j 1lw ~5j 1lx ~5j 1ly ~5j 1lz ~5j 1lA ~5j 1lB ~5j 1lC ~5j 1lD ~5j 1lE ~5j 1lF ~5j 1lG ~5j 1lH ~5j 1lI 1zw 1lJ ~5j 1lK ~5j 1lL ~5j 1lM ~5j 1lN ~5j 1lO ~5j 1lP ~5j 1lQ ~5j 1lR ~5j 1lS ~5j 1lT ~5j 1lU ~5j 1lV ~5j 1lW ~5j 1lX ~5j\nM 58 N YM a s 1 ~59 2 ~59 3 ~59 4 1zo 5 1zp 6 ~59 7 ~59 8 ~9J 3K hS 3L KP tW HL 4s zM Iy 2V 1lt 4i 3M 4v 1lY ~5j 1lZ ~5j 1m0 1zq 1m1 1zr 1m2 1zs 1m3 1i7 1m4 1i6 1m5 1zt 1m6 1i5 1m7 1hc 1m8 1zu 1m9 1zv 1ma 1zu\nM 58 N 1mb a k 1 ~59 2 ~59 3 ~59 4 1yI 5 1yJ 6 ~59 7 ~59 8 ~9J os 39 nF 3n 3M 4v 3D RI 9V 1yK a ~8O 1mb 1yL 10k 1yM 10i 1yN 1mc 1yO Bo 1yP 1md 1yQ\nM 58 N 1me a 1l 1 ~59 2 ~59 3 ~59 4 1xw 5 1xx 6 ~59 7 ~59 8 ~9J os 39 3M 4v I4 4q or 1L tH 15 EE 1H 1mf ~8P 1mg ~8P 1mh ~8P 1mi ~8P 1aE 3f 1mj ~7d 1mk ~5j 1ml ~8P 1mm ~8P 1mn ~59 a ~8O 5b 1xy 1mo 1xz 1mp 1xA 1mq 1xB 1mr 1xC 1ms 1xD 1mt 1xE 1mu 1xF 1mv 1xG 1mw 1xH 1mx 1xI 1my 1xJ k3 1xK 1mz 1xL 1mA 1xM 1mB 1xN 1mC 1xO 1mD 1xP wg 1xQ 1mE 1xR 1mF 1xS 1mG 1xT 1mH 1xU 1mI 1xV 1mJ 1xW 1mK 1xX 1mL 1xY 1mM ~8P 1mN 1xZ 1mO 1y0 1mP 1y1 1mQ 1y2 1mR 1y3 1mS 1y4 1mT 1y5 1mU 1y6 1mV 1y7 1mW ~9J 1mX 1y8 1mY 1y9 1mZ 1ya 1n0 1yb 1n1 1yc 1n2 1yd 1n3 1ye 1n4 1yf 1n5 1yg 1n6 1yh 1n7 1yi 1n8 ~9J 1n9 1yj 1na 1yk 1nb 1yl 1nc 1ym 122 1yn 14c 1yo 1nd 1yp 1ne 1yq\nM 58 N dq a 1j 1 ~59 2 ~7d 3 ~59 4 1vD 5 1vE 6 ~59 7 ~59 8 ~9J dl A dm 1vF dn 1vG do 1vH dp 1vI dq 1vJ dr 1vK ds 1vL dt 1vM du 1vN dv 1vO dw 1vP dx 1vQ dy 1vR dz 1vS dA 1vT dB 1vU dC 1vV dD 1vW dE ~5j dF 1vX dG 1vY dH 1vZ dI 1w0 dJ 1w1 dK 1w2 dL 1w3 dM 1w4 dN 1w5 dO 1w5 dP 1w6 dQ 1w7 dR 1w8 dS 1w9 dT 1wa dU 1wb dV 1wc dW 1wd dX 1we dY 1wf dZ 1wg e0 1wg e1 1wh e2 1wi e3 1wj e4 1wk e5 1wi e6 1wl e7 1wm e8 1wn e9 1wo ea 1wp eb 1wq ec 1wr ed 1ws ee 1wt ef 1wu eg 1wv eh 1ww ei ~5j ej ~5j ek ~5j el 1wx em 1wy en 1wz eo 1wA 1nf 1qg 1ng 1wB 1nh 1wC 1ni 1wD 1nj 1wE 1nk 1wF ep 43M\nM 58 N 1nl a F 1 ~59 2 ~59 3 ~59 4 d6 5 1vd 6 ~59 8 ~9J 3M 4v os 39 oV X eq B 4L 2l I4 4q 1nm ~8O 1nn ~8P 1no ~59 1np ~59 1nq 1ve 1nr 1vf 1ns 1vg 1nt 1vh 1nu 1vi 1nv 1vj 1nw 1vk 1nx 1vl 1ny 1vm 1nz 1vn 1nA 1vo 1nB 1vp 1nC 1vq 1nD 1vr 1nE 1vs 1nF 1vt 1nG 1vu 1nH 1vv 1nI 1vw 1nJ 1vx 1nK 1vy 1nL 1vz nz 1vA 1nM 1vB\nM 58 N f2 a 60 1 ~59 2 ~59 3 ~59 4 1sk 5 1sl 6 ~59 7 ~59 8 ~9J eu C ev 1sm ew 1sn ex 1so ey 1sp ez 1sq eA 1sr eB 1ss eC 1st eD 1su eE 1sv eF 1sw eG 1sx eH 1sy eI 1sz eJ 1sA eK 1sB eL 1sC eM 1sD eN 1sE eO 1sF eP 1sG eQ 1sH eR 1sI eS 1sJ eT 1sK eU 1sL eV 1sM eW 1sN eX 1sO eY 1sP eZ 1sQ f0 1sR f1 1sS f2 1sT f3 ~8P f4 ~Kw f5 1qL f6 1qM f7 1qe f8 1qN f9 1qO fa 1qP fb 1qQ fc 1qR fd 1qS fe 1rc ff 1qT fg 1qU fh 1qV fi ~5j fj 1qW fk 1qX fl 1qY fm 1qZ fn ~5j fo ~5j fp ~5j fq ~5j fr ~5j fs ~5j ft ~5j fu ~5j fv 1qZ fw 1r1 fx 1r2 fy 1r3 fz 1r5 fA 1r6 fB 1r7 fC 1r8 fD 1r9 fE 1ra fF ~5j fG 1r4 fH ~5j fI 1r0 fJ ~5j fK ~5j fL ~5j fM ~5j fN ~5j fO ~5j fP ~5j fQ ~5j fR 1rb fS ~5j fT ~5j fU ~5j fV ~5j fW ~5j fX ~5j fY ~5j fZ ~5j g0 ~5j g1 ~5j g2 ~5j g3 ~5j g4 ~5j g5 ~5j g6 ~5j g7 ~5j g8 ~5j g9 ~5j ga ~5j gb ~5j gc ~5j gd ~5j ge ~5j gf ~5j gg ~5j gh ~5j gi ~5j gj ~5j gk ~5j gl ~5j gm ~5j gn ~5j go ~5j gp ~5j gq 1rN gr 1rA gs 1rO gt 1rQ gu 1rP gv 1rS gw 1rR gx ~5j gy ~5j gz ~5j gA ~5j gB ~5j gC ~5j gD ~5j gE ~5j gF ~5j gG ~5j gH ~5j gI ~5j gJ ~5j gK ~5j gL ~5j gM ~5j gN ~5j gO ~5j gP ~5j gQ ~5j gR ~5j gS ~5j gT ~5j gU ~5j gV ~5j gW ~5j gX ~5j gY ~5j gZ ~5j h0 1sU h1 1sV h2 1sW h3 1sX h4 1sY h5 1sZ h6 1t0 h7 1t1 h8 1t2 h9 1t3 ha 1t4 hb 1t5 hc 1t6 hd 1t7 he ~5j hf ~5j hg ~5j hh ~5j hi ~5j hj ~5j hk ~5j hl ~5j hm ~5j hn ~5j ho ~5j hp ~5j hq ~5j hr ~5j hs ~5j ht ~5j hu ~5j hv ~5j hw ~5j hx ~5j hy ~5j hz ~5j hA ~5j hB ~5j hC ~5j hD ~5j hE ~5j hF ~5j hG ~5j hH ~5j hI ~5j hJ ~5j hK ~5j hL ~5j hM ~5j hN ~5j hO ~5j hP ~5j hQ ~5j hR ~5j hS ~5j hT ~5j hU ~5j hV ~5j hW ~5j hX ~5j hY ~5j hZ ~5j i0 ~5j i1 ~5j i2 ~5j i3 ~5j i4 ~5j i5 ~5j i6 ~5j i7 ~5j i8 ~5j i9 ~5j ia ~5j ib ~5j ic ~5j id ~5j ie ~5j if ~5j ig ~5j ih ~5j ii ~5j ij ~5j ik ~5j il ~5j im ~5j in ~5j io ~5j ip ~5j iq ~5j ir ~5j is ~5j it ~5j iu ~5j iv ~5j iw ~5j ix ~5j iy ~5j iz ~5j iA ~5j iB ~5j iC ~5j iD ~5j iE ~5j iF ~5j iG ~5j iH ~5j iI ~5j iJ ~5j iK ~5j iL ~5j iM ~5j iN ~5j iO ~5j iP ~5j iQ ~5j iR ~5j iS ~5j iT ~5j iU ~5j iV ~5j iW ~5j iX ~5j iY ~5j iZ ~5j j0 ~5j j1 ~5j j2 ~5j j3 ~5j j4 ~5j j5 ~5j j6 ~5j j7 ~5j j8 ~5j j9 ~5j ja ~5j jb ~5j jc ~5j jd ~5j je ~5j jf ~5j jg ~5j jh ~5j ji ~5j jj ~5j jk ~5j jl ~5j jm ~5j jn ~5j jo ~5j jp ~5j jq ~5j jr ~5j js ~5j jt ~5j ju ~5j jv ~5j jw ~5j jx ~5j jy ~5j jz ~5j jA 1t8 jB 1t9 jC 1ta jD 1tb jE 1tc jF 1td jG 1te jH ~5j jI ~5j jJ ~5j jK ~5j jL ~5j jM ~5j jN ~5j jO ~5j jP ~5j jQ ~5j os 39 3M 4v 4L 2l YM 4j mQ 1qg Ep 1jl EE 1H Fn ~5j Gq ~5j Fd ~5j a ~8O 1nN 1qf 1nO 1rF 1nP 1tf 1nQ 1tg 1nR ~59 1nS ~59 1nT 1th 1nU 1ti 1nV 1tj mJ Q 1nW 1tk 1nX 1tl 1nY 1tm 1nZ ~ns 1o0 1tn 1o1 1to 1o2 ~5l 1o3 1tp 1o4 1tq 1o5 1tr\nM 58 N 1o6 a B 1 ~59 2 ~59 3 ~59 4 1pF 5 1pG 6 ~59 7 ~59 8 ~9J 55 ~59 f2 4o YM 4j os 39 3M 4v uz 4z QA hT 5T 17b a ~8O 1o7 1hc 1o8 1pH 1o9 1pI 1oa 1pJ 1ob 1pK 1oc 1pL 1od 1pM 1oe 1pN 1of 1pO 1og 1pP 1oh 1pQ W2 1pR 1oi 1pS 1oj 1pT 1ok 1pU 1ol 1pV 1om 1pW W3 1pX 1on 1pY 1oo 1pZ\nM 58 N I4 a 1r 1 ~59 2 ~59 3 ~59 4 d6 5 1pq 6 ~59 8 ~9J kW ~5j kX ~5j kY ~5j kZ ~5j l0 ~5j l1 ~5j l2 ~5j l3 ~5j l4 ~5j l5 ~5j ke 1pr kf 1ps kh ~5j ki ~5j kj ~5j kk ~5j kl ~5j km ~5j kn ~5j ko ~5j kp ~5j kq ~5j k4 1pt k5 1pu k6 1pv k7 1pw k8 1px k9 1py ka 1pz kb 1pA kc 1pB kd 1pC kr ~5j ks ~5j ku ~5j kt ~5j kv ~5j kw ~5j kx ~5j ky ~5j kz ~5j kA ~5j kB ~5j kC ~5j kD ~5j kE ~5j kF ~5j kG ~5j kH ~5j kI ~5j kJ ~5j kK ~5j kL ~5j kM ~5j kN ~5j kO ~5j kP ~5j kQ ~5j kR ~5j kS ~5j kT ~5j kU ~5j kV ~5j 1op ~bb kg 1pD 1oq ~5j 1or ~5j 1os ~5j 1ot ~5j 1ou ~5j 1ov ~5j 1ow ~5j 1ox ~5j 1oy ~5j 1oz ~5j 1oA ~5j 1oB ~5j 1oC ~5j 1oD ~5j 1oE ~5j 1oF ~5j 1oG ~5j\nM 58 N 1oH a 16 1 ~59 2 ~59 3 ~59 4 1km 5 1kn 6 ~59 7 ~59 8 ~9J RL ~9J a ~8O Iy 2V Iz 35 Di 3m 3M 4v ID 1ko 65 1kp Rm 1kq ro 1kr 2H 1ks 2F 1kt X7 1ku sw 1kv WZ 1kw sk 1kx WV 1ky sB ~17I sp 1kz X4 1kA 8H 1kB cf 1kC tX PS tW HL 3E KQ 1oI ~17I 1oJ 1kD 1oK 1kE 1oL 1kF 1co 1kG 1oM 1kH 1oN 1kI IU 1kJ 1oO 1kK 1oP 1kL 1oQ ~5j 1oR 1kM 1oS 1kN 1oT 1kO 1oU 1kP 1oV 1kQ 1oW 1kR 1oX 1kS 1oY 1kT 1oZ 1kU 1p0 1kV 1p1 1kW 1p2 1kX 1p3 1kY 1p4 1kZ 1p5 1l0 1p6 1l1 1p7 1l2 1p8 1l3 1p9 1l4 1pa 1l5 1pb 1l6 1pc 1l7 l7 1l8 1pd 1l9\nM 58 N sH a p 1 ~59 2 ~59 3 ~59 4 1iT 5 1iU 6 ~59 7 ~59 8 ~9J a ~8O l8 G 1pe ~59 1pf ~59 1pg ~59 AZ ~59 B0 ~59 D6 ~59 1ph ~59 1pi ~59 1pj ~59 1pk 1iV m5 3n vv Ps 1pl ~9J UL 1iW Vq 1iX\nM 58 N nG a i 1 ~59 2 ~59 3 ~59 4 1iI 5 1iJ 6 ~59 7 ~59 8 ~9J a ~8O ld 1iK le 1iL lf 1iM lg 1iN lh 1iO li 1iP lj ge eX 1iQ lc 1iR\nM 58 N 1pm a W 1 ~59 2 ~59 3 ~59 4 1h2 5 1h3 6 ~59 7 ~59 8 ~9J oV X EE 1H 4L 2l Uf 2P os 39 5T 4A dq 4m 3M 4v uz 4z m7 4P vU 1e 1lj 17b uA 4J GP 1I a ~8O 1pn ~8P 1po ~8P 1pp 1h4 1pq 1h5 1pr 1h6 1ps 1h7 1pt 1h8 1pu ~5j 1lt 4i YM 4j 1pv 1h9 1pw 1ha 1px 1hb 1py ~5j 1pz 1hc 1pA ~8O Z7 1hd 1pB ~5j 1pC ~5j 1pD ~5j 1pE 1he ZE 1hf 1pF 1hg cV 1hh 1pG 1hi 1pH 1hj 1pI 1hk 1pJ 1hl 1pK 1hm 1pL 1hn 1pM 1ho 1pN 1hp 1pO ~8P 1pP ~8P 1pQ 1hq\nM 58 N 3M a 1z 1 ~59 2 ~59 3 ~59 4 5a 5 1eG 1pR 1eH 1pS 1eI 1pT 1eJ 1pU 1eK 1pV 1eL 1pW 1eM 1pX 1eN VR 1eO 1pY 1eP 1pZ 1eQ lp 1eR 1q0 1eS 1q1 1eT 1q2 1eU 1q3 1eV 1q4 1eW 1q5 1eX 1q6 1eY 1q7 1eZ 1q8 1f0 1q9 1f1 1qa 1f2 1qb 1f3 1qc 1f4 1qd 1f5 1qe 1f6 1qf 1f7 1qg 1f8 1qh 1f9 1qi 1fa 1qj 1fb 1qk 1fc 1ql 1fd 1qm 1fe 1qn 1ff 1qo 1fg 1qp 1fh 1qq 1fi 1qr 1fj 1qs 1fk 1qt ~9J 1qu 18p 1qv 18p 1qw 1eN 1qx 1eQ 1qy 1eJ 1qz 1fi Nh ~59 1qA ~5j 1qB ~bb 1qC ~59 1qD ~5j k2 ~59 19N ~59 17Z ~5j 1qE ~1fl 1qF ~1fm 1qG ~1fn 1qH ~5j 1qI ~bb 1qJ ~i2 1qK ~59 1qL ~59 1b1 ~1fo 1qM 1fp c1 ~1fq 1qN ~59 1qO ~1fr 1qP ~8O 1qQ ~9J 1qR ~8O NL ~8O 1qS ~59 1qT ~59 1qU ~59 1qV ~59 1qW ~59 1qX ~59 1qY ~59 1qZ ~7d 1r0 ~8O 1r1 ~8O 1r2 ~8O 1r3 ~9J 1r4 ~59 1r5 ~8P 1r6 1fs 1r7 1fs 1r8 1ft 1r9 1ft 1ra ~7d 1rb 1fu\nM 58 N NU a S 1 ~59 2 ~59 3 ~59 4 1cu 5 1cv 6 ~59 7 ~59 8 ~9J a ~8O 8G 1N 6N 4P 7D 2l 7G 39 1rc 4l k3 4q 1rd 1H 1re 1cw m6 4v wU 4J 6O 4Q 6M I 1rf 17C 1rg ~5j 1rh ~5j 14t ~5j 1dr ~59 1ri ~17Y 11U 1cx 1rj 1cy 1rk 1cz 1rl 1cA 1rm 1cB 1rn 1cC 1ro ~7d 1rp 1cD 1rq 1cE 1rr 1cF 1rs 1cG 1rt 1cH 1ru 1cI 1rv ~7d 1rw 1cJ 1rx 1cK 1ry 1cL 1rz 1cM 1rA 1cN 1rB 1cO 1rC 1cP 1rD 1cQ 1rE 1cR 1rF ~8P 1rG 1cS 1rH 1cT 1rI 1cU\nM 58 N K4 a 3X 1 ~59 2 ~59 3 ~59 4 5a 5 1cj 1rJ 1ck 1rK 1cl 1rL 1cm 1rM 1cn 1rN 1co 1rO 1cp 1rP 1cq 1rQ 1cr eX 1cs 1rR ~5j 1rS ~5j 1rT ~5j 1rU ~5j 1rV ~5j 1rW ~5j 1rX ~5j 1rY ~5j 1rZ ~5j 1s0 ~5j 1s1 ~5j 1s2 ~5j 1s3 ~5j 1s4 ~5j 1s5 ~5j 1s6 ~5j 1s7 ~5j 1s8 ~5j 1s9 ~5j 1sa ~5j 1sb ~5j 1sc ~5j 1sd ~5j 1se ~5j 1sf ~5j 1sg ~5j 1sh ~5j 1si ~5j 1sj ~5j 1sk ~5j 1sl ~5j 1sm ~5j 1sn ~5j 1so ~5j 1sp ~5j 1sq ~5j 1sr ~5j 1ss ~5j 1st ~5j 1su ~5j 1sv ~5j 1sw ~5j 1sx ~5j 1sy ~5j 1sz ~5j 1sA ~5j 1sB ~5j 1sC ~5j 1sD ~5j 1sE ~5j 1sF ~5j 1sG ~5j 1sH ~5j 1sI ~5j 1sJ ~5j 1sK ~5j 1sL ~5j 1sM ~5j 1sN ~5j 1sO ~5j 1sP ~5j 1sQ ~5j 1sR ~5j 1sS ~5j 1sT ~5j 1sU ~5j 1sV ~5j 1sW ~5j 1sX ~5j 1sY ~5j 1sZ ~5j 1t0 ~5j 1t1 ~5j 1t2 ~5j 1t3 ~5j 1t4 ~5j 1t5 ~5j 1t6 ~5j 1t7 ~5j 1t8 ~5j 1t9 ~5j 1ta ~5j 1tb ~5j 1tc ~5j 1td ~5j 1te ~5j 1tf ~5j 1tg ~5j 1th ~5j 1ti ~5j 1tj ~5j 1tk ~5j 1tl ~5j 1tm ~5j 1tn ~5j 1to ~5j 1tp ~5j 1tq ~5j 1tr ~5j 1ts ~5j 1tt ~5j 1tu ~5j 1tv ~5j 1tw ~5j 1tx ~5j 1ty ~5j 1tz ~5j 1tA ~5j 1tB ~5j 1tC ~5j 1tD ~5j 1tE ~5j 1tF ~5j 1tG ~5j 1tH ~5j 1tI ~5j 1tJ ~5j 1tK ~5j 1tL ~5j 1tM ~5j 1tN ~5j 1tO ~5j 1tP ~5j 1tQ ~5j 1tR ~5j 1tS ~5j 1tT ~5j 1tU ~5j 1tV ~5j 1tW ~5j 1tX ~5j 1tY ~5j 1tZ ~5j 1u0 ~5j 1u1 ~5j 1u2 ~5j 1u3 ~5j 1u4 ~5j 1u5 ~5j 1u6 ~5j 1u7 ~5j 1u8 ~5j 1u9 ~5j 1ua ~5j 1ub ~5j 1uc ~5j 1ud ~5j 1ue ~5j 1uf ~5j 1ug ~5j 1uh ~5j 1ui ~5j 1uj ~5j 1uk ~5j 1ul ~5j 1um ~5j 1un ~5j 1uo ~5j 1up ~5j 1uq ~5j 1ur ~5j 1us ~5j 1ut ~5j 1uu ~5j 1uv ~5j 1uw ~5j 1ux ~5j 1uy ~5j 1uz ~5j 1uA ~5j 1uB ~5j 1uC ~5j 1uD ~5j 1uE ~5j 1uF ~5j 1uG ~5j 1uH ~5j 1uI ~5j 1uJ ~5j 1uK ~5j 1uL ~5j 1uM ~5j 1uN ~5j 1uO ~5j 1uP ~5j 1uQ ~5j 1uR ~5j 1uS ~5j 1uT ~5j 1uU ~5j 1uV ~5j 1uW ~5j 1uX ~5j 1uY ~5j 1uZ ~5j 1v0 ~5j 1v1 ~5j 1v2 ~5j 1v3 ~5j 1v4 ~5j 1v5 ~5j 1v6 ~5j 1v7 ~5j 1v8 ~5j 1v9 ~5j 1va ~5j 1vb ~5j 1vc ~5j 1vd ~5j 1ve ~5j 1vf ~5j 1vg ~5j 1vh ~5j 1vi ~5j 1vj ~5j 1vk ~5j 1vl ~5j 1vm ~5j 1vn ~5j 1vo ~5j 1vp ~5j 1vq ~5j 1vr ~5j 1vs ~5j 1vt ~5j 1vu ~5j 1vv ~5j 1vw ~5j 1vx ~5j 1vy ~5j 1vz ~5j\nM 58 N MJ a j 1 ~59 2 ~59 3 ~59 4 1c0 5 1c1 6 ~59 7 ~59 8 ~9J nF 3n a ~8O 1vA ~59 1vB 1c2 1vC 1c3 1vD 1c4 1vE 1c5 1vF ~oB 1vG ~oB 1vH 1c6 1vI 1c7\nM 58 N uz a 1c 1 ~59 2 ~59 3 ~59 4 17y 5 17z 6 ~59 7 ~59 8 ~9J 7G 39 m6 4v vw 1N 1lj 17b lX zc 1vJ 17A lt zj 1vK RI a ~8O 1vL 17B 1rf 17C lv 17D lr 17E ls 17F 1vM ~8P 1vN 17G 1vO 17H lB ~17I 1vP ~7d 1vQ ~7d 1qf 17J 1qg 17K 1qi 17L 1qj 17M XR 17C ly 17N 1vR 17O 1vS 17O XO 17P XY 17Q XM 17R XP 17S XL 17T 1vT 17U 1vU 17V 1vV 17W 1vW ~17H 1pA ~9J 1vX ~9J Zg 17X 1vY ~17Y 1vZ ~ns 1w0 17Z 1w1 180 1pZ 181 1w2 182 1qx 181 1w3 183 1w4 184 1w5 185 1w6 186 1w7 187 1w8 188 1w9 189 1wa 18a 1wb 18b pL 18c 1wc ~8O 1wd ~8P 1we 18d lu 18e 1wf 18f vq 18g 1wg 18h 1wh 18i 1wi 18j\nM 58 N 5T a I 1 ~59 2 ~59 3 ~59 4 5a 5 16T 5T 16U 1wj 16V 1wk 16W 1wl 16X 1wm 16Y 1wn 16Z 1wo 170 1wp 171 1wq 172 1wr 173 DE 174 1ws 175 1wt 176 1wu 177 1wv 178 1ww 179 1wx 17a 1iw 17b 1wy 17c 1wz 17d 1wA 17e 1wB 17f 1wC 17g 1wD 16F 1wE 17h 1wF 17i 5W ~5j 1wG ~5j 1wH ~5j 1wI ~bb 1wJ ~5j 1wK ~5j 1wL ~5j 1wM ~5j 1wN ~5j 1wO ~5j 1wP ~5j 1wQ 17j 1wR ~5j\nM 58 N 1wS a o 1 ~59 2 ~59 3 ~59 4 16D 5 16E 6 ~59 7 ~59 8 ~9J Jc 1O uZ 2n 3M 4v 5T 4A a ~8O 1wT ~59 1wU ~5j 1wV ~5j 1wW 16F 1wX 16G 1dr ~59 1wY 16H 1w4 16I 1wS 16J ro 16K nz 16L\nM 58 N On a 1i 1 ~59 2 ~59 3 ~59 4 16B 5 16C 6 ~59 7 ~59 8 ~9J a ~8O 1wZ ~5j 1x0 ~5j 1x1 ~5j 18m ~5j 1x2 ~5j 1x3 ~5j 1x4 ~5j 1x5 ~5j 1x6 ~5j 1x7 ~5j 1x8 ~5j 1x9 ~5j 1xa ~5j 1xb ~5j 1xc ~5j 1xd ~5j 1xe ~5j 1xf ~5j 1xg ~5j 1xh ~5j 1xi ~5j 1xj ~5j 1xk ~5j 1xl ~5j 1xm ~5j 1xn ~5j 1xo ~5j 1xp ~5j 1xq ~5j 1xr ~5j 1xs ~5j 1xt ~5j 1xu ~5j 1xv ~5j 1xw ~5j 1xx ~5j 1xy ~5j 1xz ~5j 1xA ~5j 1xB ~5j 1xC ~5j 1xD ~5j 1xE ~5j 1xF ~5j 1xG ~5j 1xH ~5j 1xI ~5j 1xJ ~5j 1xK ~5j 1dH ~5j 1xL ~5j 1xM ~5j 1xN ~5j 1xO ~5j 1xP ~5j 1xQ ~5j 1xR ~5j 1xS ~5j 1xT ~5j 1xU ~5j 1xV ~5j 1xW ~5j BC ~5j 1xX ~5j 1xY ~5j 1xZ ~5j 1y0 ~9J 1y1 ~9J 1y2 15d 1y3 15e 1y4 15f\nM 58 N Om a 2k 1 ~59 2 ~59 3 ~59 4 158 5 159 6 ~59 7 ~59 8 ~9J rf ~59 1y5 ~59 rg 15a 30 15b sT ~db tH 15 vw 1N 9W 15c MR 2n nF 3n 3M 4v 1y0 ~9J 1y2 15d 1y3 15e 1y4 15f 1wZ ~5j 1x0 ~5j 1x1 ~5j 18m ~5j 1x2 ~5j 1x3 ~5j 1x4 ~5j 1x5 ~5j 1x6 ~5j 1x7 ~5j 1x8 ~5j 1x9 ~5j 1xa ~5j 1xb ~5j 1xc ~5j 1xd ~5j 1xe ~5j 1xf ~5j 1xg ~5j 1xh ~5j 1xi ~5j 1xj ~5j 1xk ~5j 1xl ~5j 1xm ~5j 1xn ~5j 1xo ~5j 1xp ~5j 1xq ~5j 1xr ~5j 1xs ~5j 1xt ~5j 1xu ~5j 1xv ~5j 1xw ~5j 1xx ~5j 1xy ~5j 1xz ~5j 1xA ~5j 1xB ~5j 1xC ~5j 1xD ~5j 1xE ~5j 1xF ~5j 1xG ~5j 1xH ~5j 1xI ~5j 1xJ ~5j 1xK ~5j 1dH ~5j 1xL ~5j 1xM ~5j 1xN ~5j 1xO ~5j 1xP ~5j 1xQ ~5j 1xR ~5j 1xS ~5j 1xT ~5j 1xU ~5j 1xV ~5j 1xW ~5j BC ~5j 1xX ~5j 1xY ~5j 1xZ ~5j 1y1 ~9J 1y6 ~oB 1y7 ~oB a ~8O 1y8 15g 1jk 15h oY 15i 1y9 15j 1ya ~59 1yb ~59 1yc ~59 1F ~59 1yd ~59 1ye ~59 1yf ~59 1yg ~59 1yh ~59 1yi ~59 1yj ~59 1yk ~59 1yl ~59 1ym ~59 10B ~59 1yn 15k tF 15l 1yo ~59 1yp ~59 1yq ~59 1yr ~59 1ys ~59 1yt ~59 1yu ~59 1yv ~59 1yw ~59 1yx ~59 4T ~59 1yy ~59 1yz ~59 1yA ~59 1yB ~9J 1yC ~ns 1yD ~ns 1yE ~5j 1yF 15m 1yG 15n 1yH 15o 1yI 15p 1yJ 15q TA 15r 9E 15s Om 15t K7 15u 1yK 15v nz 15w 1yL 15x\nM 58 N T4 a g 1 ~59 2 ~7d 3 ~59 4 156 5 157 tI ~8O 6 ~59 7 ~59 8 ~9J a ~bb wU 4H m5 4G 1d0 4F 1yM 14c d2 14d d3 14e\nM 58 N 1yN a 13 1 ~59 2 ~7d 3 ~59 4 14a 5 14b 6 ~59 7 ~59 8 ~9J v 11f 4g zP sH 4s DU WI Nv Le O2 Nj 1ig N9 1yO ~oB 1yP ~oB 1yQ ~oB 1yR 11n 1yS 11p 1yT 11q 1yU 11c 1yV 11b 1yW 5j 1yX ~i2 1yY ~i2 1yZ ~i2 1z0 ~i2 1z1 ~i2 1z2 ~i2 1z3 ~i2 1z4 ~i2 1z5 ~i2 1z6 ~i2 1z7 ~i2 1z8 ~WI 1yM 14c d2 14d d3 14e 1z9 14f 1za 14g 1zb 14h 1zc 14i 1zd 14j 1ze 14k 1zf 14l 1zg 14m 1zh 14n 1zi 14o 1zj 14p 1zk 14q 1zl 14r 1zm 14s 1zn 14t 1zo 14u 1zp 14v 1zq 14w 1zr 14x 1zs 14y 1zt 14z 1zu 14A 1zv 14B 1zw 14C 1zx 14D 1zy 14E\nM 58 N 1zz a r 1 ~59 2 ~7d 3 ~59 4 11d 5 11e 6 ~59 7 ~59 8 ~9J v 11f 5R 11g 5S 11h 5T 11i 5U 11j 5W 11k 5V 11l J2 11m nF 3n Nv Le 1yV 11b 1zA ~59 1yQ ~oB 1yP ~oB 1yO ~oB 1yR 11n 1zB 11o 1yS 11p 1yT 11q\nM 58 N 1zC a e 1 ~59 2 ~7d 3 ~59 4 119 5 11a 6 ~59 7 ~59 8 ~9J Nv Le 4q Mz 1H MH 1yV 11b 1yU 11c 1yW 5j\nM 58 N sM a P 1 ~59 2 ~59 3 ~59 4 ZA 5 ZB 6 ~59 7 ~59 8 ~9J tH 15 uZ 2n Ol 2O 3M 4v MJ 4y wa ZC a ~8O 1zD ZD 1zE ZE 1zF ZF 1zG ZG 1zH ZH 1zI ~59 1zJ ~59 1zK ZI PO ~ZI 1zL ZJ 1zM ZK v0 ZL 1zN ZM 1zO ZN 1zP ZO 1zQ ZP 1zR ZQ 1zS ZR 1zT ZS 1zU ZT 1zV ZU 1zW ZV 1zX ZW 1zY ZX 1zZ ZY 1A0 ZZ PE 100 1A1 ~5j 1A2 101 1A3 102 1A4 103 1A5 104 1A6 ~59 1A7 105 1A8 106 1A9 107\nM 58 N uA a H 1 ~59 2 ~59 3 ~59 4 WG 5 WH 6 ~59 7 ~59 8 ~9J O 9I 1Aa 9I 1Ab dl DU WI 1Ac fx 1Ad WJ 1Ae WK 1Af WL 1Ag WM 1Ah WN vW WO 1Ai 7c 1Aj 7c 1Ak 6R 1Al KR 1Am 6G 1An 72 19t 58 1hf WP 1ix WQ 1Ao 6l 1Ap 6v 1Aq WR 1Ar WS 1As WT 1At WU DV GJ 1Au WV 47 WW 3N Aj 1Av WX 3O WY 1Aw 7d 1Ax WZ a ~8O\nM 58 N 1Ay a 3b 1 ~59 2 ~59 3 ~59 4 KN 5 KO 6 ~59 7 ~59 8 ~9J 3L KP 3K hS tH 15 3E KQ vU 1e vw 1N 1Q 37 1Az 3n 3M 4v uA 4J m7 4P 1Ak 6R 1Al KR 1Am 6G 3N Aj lD KS a ~8O 1AA KT 1AB KU 4o KV 1AC KW 4p KX 1AD KY 1AE KZ 1AF L0 1AG L1 1AH L2 1AI L3 1AJ L4 1AK L5 1AL ~8O 1AM L6 1AN L7 1AO L8 1AP L9 1AQ La 1AR Lb 1AS Lc 1AT Ld Nv Le O7 Lf 1AU Lg 1AV Lh 1AW Li Ss Lj 1jA Lk 5x Ll MX Lm To Ln 1AX Lo 1AY Lp 1AZ Lq 1B0 Lr 1B1 Ls 1B2 Lt 1B3 Lu 1B4 Lv Nx Lw 1B5 Lx 1B6 Ly 1B7 Lz 1B8 LA E5 LB 1B9 LC 1Ba LD 1Bb LE 4n LF 1Bc LG 1Bd LH 1Be LI 1Bf LJ 1Bg LK 1Bh LL 1Bi LM 1Bj LN 1Bk LO 1Bl LP 1Bm ~8O 1Bn ~8O 1Bo ~8O 1Bp LQ 1Bq LR 1Br LS 1Bs LT 1Bt LU 1Bu ~9J 1Bv LV Nw LW 1Bw LX 1Bx LY O9 LZ xK M0 1By M1 1Bz ~bb 1BA M2 1BB M3 1BC M4 1BD M5 1BE M6 1BF ~5j 1BG M7 1BH M8 1BI M9 1BJ Ma 1BK ~KQ 1jw Mb 1BL Mc 1BM Md 1BN Me 1di Mf 1BO Mg 1BP Mh 1BQ Mi 1BR Mj 1BS Mk 1BT Ml 1BU Mm 1BV Mn 1BW LE 4a Mo 4b Mp 4c Mq 4d Mr 4e Ms 4g Mt 4h Mu 4i Mv 4k Mw 4l Mx 4m My 4q Mz 1BX MA 4r MB 4s MC 4x MD 4y ME 4A MF 4z MG 1H MH 1G MI 1BY MJ 1p MK 1BZ ML 4t MM 4u MN 4v MO 4w MP O1 MQ 1C0 MR 1o MS 1kq MT 3F MU tX MV tY MW 4j MX 4f MY 1hg MZ 1C1 N0 1C2 N1 1C3 N2 1C4 N3 1C5 N4 1C6 N5 1C7 N6 1C8 N7 1C9 ~i2 1Ca ~i2 1Cb N8 1ig N9 1Cc Na 1Cd Nb 1Ce Nc 1Cf Nd 1Cg Ne 1Ch Nf 1Ci Ng 1Cj Nh O8 59 Sp ~8P SK Ni O2 Nj O3 Nk 1Ck Nl 4L Nm 1dt Nn 14 No nF Np 1Cl Nq 1Cm Nr\nM 58 N 1Cn a m 1 ~59 2 ~59 3 ~59 4 5a 5 Kh 61 Ki 1Co Kj 1Cp Kk 1Cq Kl 1Cr Km 1Cs Kn 1Ct Ko 1Cu Kp 1Cv Kq 11W Kr 30 Ks 1Cw Kt UA Ku 1Cx ~59 1Cy Kv 1Cz ~Kv 1CA ~Kw\nM 58 N Dj a a 1 ~59 2 ~7d 3 ~59 4 Kf 5 Kg tI ~8O 6 ~59 7 ~59 8 ~9J mT 4N\nM 58 N 1CB a 1C 1 ~59 2 ~59 3 ~59 4 HJ 5 HK 6 ~59 7 ~59 8 ~9J tW HL vw 1N nF 3n 3M 4v uA 4J m7 4P QC 2m a ~8O 1CC ~8O 1CD ~8O 1CE ~8O 1CF ~8O 1CG ~8O 1CH ~8O 1CI ~59 1CJ ~59 1CK ~8O I8 HM 1CL ~59 1CM ~59 1CN HN 1CO HO 1CP HP 1CQ HQ 1CR HR 1CS HS 1CT HT 1CU HU 1CV HV 1CW HW 1CX HX 1CY HY 1CZ HU 1D0 HZ 1D1 I0 1D2 I1 1D3 I2 1D4 I3 1D5 I4 1D6 I5 1D7 I6 1D8 I7 1D9 I8 1Da I9 1Db Ia 1Dc Ib 1Dd Ic 1De Id 1Df Ie 1Dg ~59 1Dh ~7d 1Di If 1Dj ~oB Dd Ig 1Dk Ih 1Dl Ii 1Dm Ij 1Dn ~i2 1Do ~db us Ik 1Dp Il Bo Im 1Dq In 1Dr Io 1Ds Ip 1Dt Iq 1Du Ir 1Dv Is OZ It 1Dw Iu 1Dx ~7d 1Dy Iv 1Dz Iw 1DA ~7d 1DB Ix 1DC Iy 1DD Iz 1DE IA 1DF IB 1DG IC 1DH ~7d 1DI ID 1DJ IE 1DK IF 1DL IG 1DM IH 1DN II 1DO IJ 1DP IK 1DQ IL 1DR IM 1DS IN\nM 58 N 1DT a Y 1 ~59 2 ~59 3 ~59 4 Fn 5 Fo 6 ~59 7 ~59 8 ~9J os 39 3M 4v DX Fp mS Fq rf ~59 19N 3e 1DU ~59 1DV ~8P 1DW ~8P 1DX ~db 1DY ~8P 1DZ ~59 1E0 ~59 1E1 ~59 1E2 ~59 1E3 5j 1E4 db 1E5 Fr 1E6 Fs 1E7 Ft 1E8 Fu 1E9 Fv 1Ea Fw 1Eb Fx 1Ec Fy 1Ed Fz 1Ee FA 1Ef FB 1Eg FC 1Eh FD 1Ei FE lE K 1Ej FF 1Ek ~7d 1El ~5j 1Em FG 1En FH 1Eo FI 1Ep FJ 1Eq ~8O 1Er ~8O 1a7 ~7d 1Es FK 1Et ~7d 1Eu FL 1Ev FM 1Ew FN 1Ex FO 1Ey ~Fs 1Ez ~Fs 1EA ~Fs 1EB ~Fs\nM 58 N m7 a G 1 ~59 2 ~59 3 ~59 4 EM 5 EN 6 ~59 7 ~59 8 ~9J 3M 4v a ~8O 1EC EO 1ED EP 1EE EQ 1EF ER 1EG EO 1EH ES 1EI EP 1EJ ET 1EK EU 1EL EV 1EM EW 1EN EX 1EO EY 1EP EZ 1EQ F0 1ER F1 1ES F2 V7 F3 1ET F4 lH F5 lI F6 1EU F7 1EV F8 1EW ~59 1EX F9 1EY Fa lK ~8O lM ~59 lL ~9J lJ Fb 1EZ ~59 1F0 ~9J\nM 58 N uY a s 1 ~59 2 ~59 3 ~59 4 z3 5 z4 6 ~59 7 ~59 8 ~9J lN z5 lP z6 lR z7 lQ z8 lU z9 lT za lS z7 lO zb lX zc lW zd tJ 8 3M 4v uZ 2n 1F1 ~bb a ~8O 1F2 ze 1F3 zf 1F4 zg 1F5 zh 1F6 zi\nM 58 N 1F7 a d 1 ~59 2 ~59 3 ~59 4 z1 5 z2 tI ~8O 6 ~59 7 ~59 8 ~9J a ~8O 1F8 4S 1F9 4Y 1Fa 51\nM 58 N 1Fb a U 1 ~59 2 ~59 3 ~59 4 yC 5 yD tI ~8O 6 ~59 7 ~59 8 ~9J 1kF ty 1Fc ~5j 1Fd ~5j 1Fe ~5j 1Ff ~5j 1Fg ~5j 1Fh ~5j 1Fi ~5j 1Fj ~5j 1Fk ~5j 1Fl ~5j 1Fm ~5j 1Fn ~5j 1Fo ~5j 1Fp ~5j 1Fq ~5j 1Fr ~5j 1Fs yE 1Ft yF 1Fu yG 1Fv yH 1Fw yI 1Fx yJ 1Fy yK 1Fz yL 1FA yM 1FB yN 1FC yO 1FD yP 1FE yQ 1FF yR 1FG yS 1FH yT 1FI yU 1FJ yV 1FK ~59 1FL ~59 1FM ~59 1FN ~7d 1FO ~7d 1FP 4U 1FQ yu 1FR ys 1FS 4V 1FT 4T 1FU 4X 1FV 4W\nM 58 N 1FW a 9 1 ~59 2 ~7d 3 ~59 4 yw 5 yx 6 ~59 7 ~59 8 ~9J 1FT yy\nM 58 N 1FX a f 1 ~59 2 ~59 3 ~59 4 yq 5 yr 6 ~59 7 ~59 8 ~9J 3M 4v 1FY ~9J 1FZ ~9J 1FR ys 1G0 yt 1FQ yu 1G1 yv\nM 58 N 1G2 a e 1 ~59 2 ~59 3 ~59 4 yo 5 yp 6 ~59 7 ~59 8 ~9J a ~8O 1F7 4R 1G3 ~bb 1G4 sW 1G5 sX 1G6 sY\nM 58 N 1G7 a W 1 ~59 2 ~59 3 ~59 4 sU 5 sV 6 ~59 7 ~59 8 ~9J 4L 2l 1F7 4R 1FN ~7d 1FO ~7d 1FL ~59 1FP 4U 1G4 sW 1G5 sX 1G3 ~bb 1G6 sY 1G8 rR 1G9 rQ 1Ga ~bb 1kF sZ 1Gb t0 1Gc t1 1Gd t2 1Ge t3 1Gf t4 1Gg t5 1Gh t6 1Gi t7 1Gj t7 1Gk t8 1Gl ~t8 6H t9 1Gm ta 1Gn tb 1Go tc 1Gp td O8 te 1Gq tf 1Gr tg 1yb th 1Gs ti 1Gt tj 1Gu tk 1Gv tl 1Gw tm 1Gx tn 1Gy to 1Gz tp 1GA tq 1GB tr 1GC ts 1GD tt 1GE tu mT tv 1GF tw 1FQ tx\nM 58 N 1GG a j 1 ~59 2 ~59 3 ~59 4 rI 5 rJ 6 ~59 7 ~59 8 ~9J wg 1g 1F7 4R a ~8O 1GH rK 1GI rL 1GJ rM 1GK rN 1GL rO 1GM rP 1G9 rQ 1G8 rR\nM 58 N 1GN a b 1 ~59 2 ~7d 3 ~59 4 rG 5 rH tI ~8O 6 ~59 7 ~59 8 ~9J 1GO 4Z 1GP 50\nM 58 N 1GQ a r 1 ~59 2 ~7d 3 ~59 4 rm 5 rn 6 ~59 7 ~59 8 ~9J nF 3n 1GR ~oB 1GS ro 1GT rp 1GU rq 1GV rr 1GW rs 1GX rt 1GY ru 1GZ rv 1H0 rw 1H1 rx 1H2 ~9J DH ~9J 1H3 ry 1H4 rz Kh rA 1do rB 1H5 rC\nM 58 N 1H6 a Z 1 ~59 2 ~59 3 ~59 4 nf 5 ng 6 ~59 7 ~59 8 ~9J a ~8O 1H7 ~59 3M 4v nF 3n m7 4P 4L 2l tH 15 vU 1e uY 4Q 1GO 4Z 6G nh 1H8 ni 6H nj 6E nk 1yb nl 1Go nm 1H9 nm 1Ha nn 1GP no 1Hb np 1Hc nq 1Hd nr 1He ~ns 1Hf nt 1Hg nu 1Hh ~9J 1Hi nv 1Hj ~9J 1Hk nw 1Hl nx 1Hm ny 1Hn nz 1Ho nA 1Hp nB 1Hq nC d0 nD 1vI nE mT nF 1Hr nG 1Hs nH 1Ht nI 1Hu nJ 1Hv nI 1Hw nK 6I nL 6J nM 1Hx nN 1Hy nO 1Hz nP 1HA nQ 1HB nR 1HC nS 6F nT\nM 58 N 1HD a r 1 ~59 2 ~59 3 ~59 4 n9 5 na tI ~8O 6 ~59 7 ~59 8 ~9J 1HE 53 1HF 52 1HG 54 1HH l3 1HI mm 1HJ ml 1HK mc 1HL kZ 1HM n1 1HN kY 1HO n2 mT nb 1GF nc 1HP ~8O ty ~5j 1HQ ~59 1HR nd 1HS ne\nM 58 N 1HT a d 1 ~59 2 ~59 3 ~59 4 mZ 5 n0 6 ~59 7 ~59 8 ~9J 1HK mc 1HM n1 1HL kZ 1HN kY 1HO n2\nM 58 N 1HU a s 1 ~59 2 ~59 3 ~59 4 mj 5 mk 6 ~59 7 ~59 8 ~9J Nh ~59 1HJ ml 1HI mm 1HV mn 1HW mo 1HX ~59 1HY ~59 1HZ ~59 1I0 ~59 1I1 ~59 1I2 ~59 1I3 ~8O 1I4 ~59 1I5 ~59 1I6 ~59 1I7 ~59 1I8 ~59 1I9 ~59 1Ia ~8O 1Ib mp\nM 58 N 1Ic a i 1 ~59 2 ~59 3 ~59 4 kW 5 kX 6 ~59 7 ~59 8 ~9J 1HE 53 1HN kY 1HL kZ 1Id l0 1Ie l1 1If l2 1HH l3 1Ig l4 1Ih l5 zu l6\nM 58 N MI a 2o 1 ~59 2 ~59 3 ~59 4 ga 5 gb 6 ~59 7 ~59 8 ~9J nH V Mf 23 4L 2l uZ 2n os 39 It 3a nF 3n 1me 4l I4 4q nG 4t 3M 4v uz 4z 5T 4A vU 1e MH 3b KV 57 oP 5f re Y WN 2T a ~8O 1Ii gc 1Ij gd eX gc 1Ik gc 1Il ~5j 1Im ~5j 1In ~5j 1Io ~5j 1Ip ~5j 1Iq ~5j 1Ir ~5j 1Is ~5j 1It ~5j 1Iu ~5j 1Iv ~5j 1Iw ~5j 1Ix ~db 1Iy ~db 1Iz ~5j 1IA ~5j 1IB ~5j 1IC ~5j 1ID ~5j 1IE ~5j 1IF ~5j 1IG ~5j 1IH ~5j 1II ~5j 1IJ ~5j 1IK ~59 1IL ~db 1IM ~5j 1IN ~5j 1IO ~5j 1IP ~5j 1IQ ~5j 1IR ~5j 1IS ~5j 1IT ~5j 1IU ~5j 1IV ~5j 1IW ~5j 1IX ~5j 1IY ~5j 1IZ ~5j 1J0 ~5j 1J1 ~5j 1J2 ~5j 1J3 ~5j 1J4 ~5j 1J5 ~5j 1J6 ~5j 1J7 ~5j 1J8 ~5j 1J9 ~5j 1Ja ~5j 1Jb ~5j 1Jc ~59 1Jd ~db 1Je ~5j 1Jf ~5j 1Jg ~5j 1Jh ~5j 1Ji ~5j 1Jj ~5j 1Jk ~5j 1Jl ~5j 1Jm ~5j 1Jn ~5j 1Jo ~5j 1Jp ~5j 1Jq ~5j 1Jr ~59 1Js ~db 1Jt ~5j 1Ju ~59 1Jv ~db 1Jw ~5j 1Jx ~5j 1Jy ~5j 1Jz ~5j 1JA ~5j 1JB ~5j 1JC ~5j 1JD ~5j 1JE ~5j 1JF ~5j 1JG ~5j 1JH ~5j 1JI ~ge 1JJ gf 1JK gg 1JL gh 1JM gi 1JN gj 1JO gk 1JP ~7d 1JQ gl 1JR gm bP gn bQ go 1JS ~9J 1JT gp 1JU gq 1JV gr 1JW gs 1JX gt 1JY gu 1JZ gv 1K0 gw 1K1 gx 1K2 gy 1K3 gz 1K4 gA 1K5 gB 1K6 gC 1K7 gD 1K8 gE RT gF nz gG\nM 58 N 19E a J 1 ~59 2 ~59 3 ~59 4 d6 5 d7 6 ~59 8 ~9J 6P i 7S d8 7R d9 7C h 7A m 7D n 7E 2U 3M 4v 5T 4A 6N L a ~8O 7I ~59 1K9 ~59 1Ka da 1Kb ~9J 1Kc 58 1Kd ~5j 1Ke ~db 1Kf ~5j 19F dc 1Kg ~bb 1Kh dd 1Ki de 1Kj df 1Kk dg 1Kl ~59 1Km ~8P 1Kn dh 1Ko di 1Kp dj 1Kq dk 81 dl 1Kr dm 1Ks dn 1Kt do 1Ku dp 1Kv dq 1Kw dr\nM 58 N KV a z 1 ~59 2 ~59 3 ~59 4 5a 5 5b 1Kx 5c rl 5d 1Ky 5e oP 5f rm 5g 1Kz 5h eX 5i 1KA ~5j 1KB ~5j 1KC ~5j 1KD ~5j 1KE ~5j 1KF ~5j 1KG ~5j 1KH ~5j 1KI ~5j 1KJ ~5j 1KK ~5j 1KL ~5j 1KM ~5j 1KN ~5j 1KO ~5j 1KP ~5j 1KQ ~5j 1KR ~5j 1KS ~5j 1KT ~5j 1KU ~59 1KV ~59 55 ~59\nT 5k P = 1KW 0 5l 2 58 5l C q oV - 1KW a a 1KX cX 1KY cY 1KZ cZ 1L0 d0 1L1 d1 1L2 d2 ur d3 1L3 d4 RL d5 2 ~59 o 1 1L4 ~59\nT 5k P = pY 0 5l 2 59 5l C ^ a 19 1KX bO 1KY bP 1L5 bQ 1L6 bR 1KZ bS 10J bT 10K bU 10L bV 10M bW 10O bX 10N bY 1L7 bZ 10Z c0 1L8 c1 1L9 c2 11d c3 10R c4 110 c5 1La c6 11b c7 31 c8 z5 c9 10k ca 1Lb cb 10i cc 1Lc cd 1Ld ce 1Le cf 1Lf cg Rh ch 1Lg ci Kh cj 1Lh ck cc cl 1Li cm 1Lj cn 1Lk co 1Ll cp 1Lm cq 1Ln cr 1Lo cs 1Lp ct 1Lq cu 1Lr cv 1Ls cw Iw cx 1Lt cy 1Lu cz 1Lv cA 1Lw cB 1Lx cC 1Ly cD 1Lz cE 1LA cF 1LB cG 1LC cH 1LD cI 1LE cJ 1LF cK 1LG cL 1LH cM 1LI cN 1LJ cO 1LK cP p9 cQ 1LL cR 1LM cS 1LN cT 1LO cU 1LP cV 2 ~59\nT 5k P = 7g 1 5l 2 5a 5l C q Ms - 7g a e 1LQ ~59 2 ~59 1LR ~59 1LS aP Oe aQ 1LT aR 1LU aS 1LV aT 1LW aU 1LX aV 1LY aW 1LZ aX 1L3 aY 1M0 aZ\nO 8N a 9 11W ~59 1M1 5a 1M2 ~59 1M3 ~7d 1M4 ~7d 1M5 ~8O 1M6 ~8P 1M7 ~7d 1M8 ~8P o 1 1M9 ~7d\nO 7c C ^ S 57\nO 7c C ^ S 57\nO 7c C ^ S 57\nO 7c C o 57 S 57\nO 7c C ^ S 57\nO 7c C ^ S 57\nT 5k P = eX 1 8r 4 5i 8r 8s 5l C ^ a 3 1LQ ~59 1M0 8t 2 ~7d o 1 2 ~7d\nT 5k P = pQ 0 5l 2 5j 5l C ^ a 10 1KX 5m 1KY 5n 1L5 5o 1KZ 5p 10J 5q 10K 5r 10L 5s 10M 5t 10O 5u 10N 5v 10R 5w 1Ma 5x 117 5y 1Mb 5z 110 5A 1La 5B 10Z 5C 1L8 5D 1Mc 5E 1Md 5F 115 5G 1Me 5H 112 5I 114 5J 10Q 5K 1Mf 5L 10X 5M 10Y 5N 1Mg 5O 116 5P 1Mh 5Q 10S 5R 1Mi 5S 119 5T 1Mj 5U 113 5V 1Mk 5W 1Ml 5X 1Mm 5Y 10U 5Z 1Mn 60 118 61 1Mo 62 10V 63 1Mp 64 1Mq 65 1Mr 66 1Du 67 1Ms 68 1Mt 69 1Mu 6a 1Mv 6b 1Mw 6c 1Mx 6d 1LP 6e 1LM 6f 1LO 6g 1My 6h 1Mz 6i 1MA 6j 1MB 6k 2 ~59\nT 5k P = q1 0 5l 2 5k 5l C ^ a w 1KX 7V 1KY 7W 10T 7X 1KZ 7Y 1L0 7Z 1L1 80 1L2 81 113 82 1Mk 83 1MC 84 1MD 85 1ME 86 1MF 87 1MG 88 ur 89 1LO 8a 1MH 8b 1MI 8c 1MJ 8d 1MK 8e 1ML 8f 1MM 8g 1MN 8h 1 8i 1MO 8j 1MP 8k 1LQ 8l 1MQ 8m 1L3 8n 2 8o 1L4 8p RL 8q\nT 5k P = pT 0 ~7d 1 5l C ^ a o 1KX 7y 1KY 7z 1L5 7A 1L6 7B 1KZ 7C 1L0 7D 1L1 7E 10J 7F 10K 7G 10L 7H 10M 7I 10O 7J 10N 7K 1L2 7L 1MR 7M 1MS 7N 1MT 7O 1MU 7P 1MV 7Q 1LM 7R 1LO 7S ur 7T 1MW 7U 2 ~59 o 1 1L4 ~59\nO 7c C b S 5j o 1 1LQ ~7d\nO 6R C d D ^\nO 6R C d D ^\nO 6R C d D ^\nO 6R C d D ^\nO 6R C d D ^\nO 6R C d D ^\nO 6R C d D ^\nO 6R C d D ^\nO 6R C d D ^\nO 6R C d D ^\nO 6R C d D ^\nO 6R C d D ^\nO 6R C d D ^\nO 6R C d D ^\nO 6R C d D ^\nO 6R C d D ^\nO 6R C d D ^\nO 6R C d D ^\nO 6R C d D ^\nO 6R C d D ^\nO 6R C d D ^\nO 6R C d D ^\nO 6R C d D ^\nO 6R C d D ^\nO 6R C d D ^\nO 6R C d D ^\nO 6R C d D ^\nO 6R C d D ^\nO 6R C d D ^\nO 6R C d D ^\nO 6R C d D ^\nO 6R C d D ^\nO 6R C d D ^\nO 6R C d D ^\nO 6R C d D ^\nO 6R C d D ^\nO 6R C d D ^\nO 6R C d D ^\nO 6R C d D ^\nO 6R C d D ^\nO 6R C d D ^\nO 6R C d D ^\nO 6R C d D ^\nO 6G C d D ^ Y 7c o 1 1L4 ~7d\nO 6G C d D ^ Y 7c\nO 6G C d D ^ Y 7c\nO 6G C d D ^ Y 7c\nO 72 C d D ^ Y 7c o 1 1L4 ~59\nO 6G C d D ^ Y 7c\nO 6G C d D ^ Y 7c o 1 1L4 ~7d\nO 6G C d D ^ Y 7c o 1 1L4 ~7d\nO 6G C d D ^ Y 7c o 1 1L4 ~7d\nO 6G C d D ^ Y 7c\nO 6G C d D ^ Y 7c o 1 2 ~7d\nO 6G C d D ^ Y 7c o 1 2 ~7d\nO 6G C d D ^ Y 7c\nO 6l D ^ I k ~5j\nO 6l D ^ I k ~5j\nO 6l D ^ I k ~5j\nO 6l D ^ I k ~5j\nT 5k P = 1MX 0 5l 2 6l 5l C q oV - 1MX a 9 1KY 6m 1KZ 6n 1MY 6o 1MZ 6p 1N0 6q 1N1 6r 1 6s 2 6t 1MO 6u o 1 2 6t\nO 6R C d D ^\nO 6R C d D ^\nO 6R C d D ^\nO 6R C d D ^\nO 6R C d D ^\nO 6v D ^ I o\nO 6v D ^ I k ~59\nO 6l D ^ I k ~59 o 1 2 ~7d\nO 6l D ^ I k ~59 o 1 2 ~7d\nT 5k P = 1N2 0 5l 2 6v 5l C q oV - 1N2 a a 1KY 6w 1KZ 6x 1MY 6y 1MZ 6z 1N0 6A 1MS 6B 1N1 6C 1 6D 2 6E 1MO 6F o 1 2 6E\nO 6R C d D ^\nO 6R C d D ^\nO 6R C d D ^\nO 6R C d D ^\nO 6R C d D ^\nO 6G C d D ^ Y 7c o 2 2 ~7d 1L4 ~7d\nO 6v D ^ I o\nO 6v D ^ I k ~59\nO 6l D ^ I k ~7d o 1 2 ~7d\nO 6l D ^ I k ~59 o 1 2 ~7d\nT 5k P = 1N3 0 5l 2 6G 5l G m C q oV - 1N3 a a 1KY 6H 10T 6I 1KZ 6J 1MY 6K 1MS 6L 1N1 6M 1 6N 2 6O 1MO 6P 1L4 6Q o 1 2 6O\nO 6R C d D ^\nO 6R C d D ^\nO 6R C d D ^\nO 6R C d D ^\nO 6G C d D ^ Y 7c o 2 2 ~7d 1L4 ~7d\nO 6v D ^ I o\nO 6v D ^ I k ~59\nO 6l D ^ I k ~59 o 1 2 ~7d\nO 6l D ^ I k ~59 o 1 2 ~7d\nO 6l D ^ I k ~59 o 1 2 ~7d\nT 5k P = 1N4 0 5l 2 6R 5l G w C q oV - 1N4 a a 1KY 6S 10T 6T 1KZ 6U 1MY 6V 1MS 6W 1N1 6X 1 6Y 2 6Z 1MO 70 1L4 71 o 1 2 6Z\nO 6R C d D ^\nO 6R C d D ^\nO 6R C d D ^\nO 6R C d D ^\nO 6G C d D ^ Y 7c o 2 2 ~7d 1L4 ~7d\nO 6v D ^ I o\nO 6v D ^ I k ~59\nO 6l D ^ I k ~59 o 1 2 ~7d\nO 6l D ^ I k ~59 o 1 2 ~7d\nO 6l D ^ I k ~59 o 1 2 ~7d\nT 5k P = 1N5 0 5l 2 72 5l G k C q oV - 1N5 a 9 1KY 73 10T 74 1KZ 75 1MY 76 1N1 77 1 78 2 79 1MO 7a 1L4 7b o 1 2 79\nO 6R C d D ^\nO 6R C d D ^\nO 6R C d D ^\nO 6R C d D ^\nO 6v D ^ I o\nO 6v D ^ I k ~59\nO 6l D ^ I k ~59 o 1 2 ~7d\nO 6l D ^ I k ~59 o 1 2 ~7d\nO 6l D ^ I k ~7d o 1 2 ~7d\nT 5k P = 1N6 0 5l 2 7c 5l C q oV - 1N6 a h 1KY 7h 1L5 7i 10T 7j 1KZ 7k 10J 7l 10K 7m 10L 7n 10M 7o 10O 7p 10N 7q 1MS 7r 1LQ 7s 2 7t 1 7u 1MO 7v 1N7 7w 1L4 7x o 1 2 7t\nT 5k P = 1Aw 0 5l 2 7d 5l C q oV - 1Aw a 4 1KX 7e 1KY 7f 1Mf 7g 2 ~7d o 1 2 ~7d\nO 7c C b S 7d o 1 1LQ ~7d\nO 6R C d D ^\nO 6R C d D ^\nO 6R C d D ^\nO 6R C d D ^\nO 6R C d D ^\nO 6R C d D ^\nO 6R C d D ^\nO 6R C d D ^\nO 6R C d D ^\nO 6R C d D ^\nO 6R C d D ^\nO 6R C d D ^\nO 6G C d D ^ Y 7c o 2 2 ~7d 1L4 ~7d\nO 6v D ^ I k ~59 Z k ~7d\nO 6l D ^ I k ~59 Z d o 1 2 ~7d\nO 6l D ^ I k ~59 Z d o 1 2 ~7d\nO 6l D ^ I k ~59 Z d o 1 2 ~7d\nO 6l D ^ I s o 1 2 ~7d\nO 6l D ^ I k ~59 Z d o 1 2 ~7d\nO 7c C b S 5l o 1 1LQ ~7d\nO 6R C d D ^\nO 6R C d D ^\nO 6R C d D ^\nO 6R C d D ^\nO 6R C d D ^\nO 6R C d D ^\nO 6R C d D ^\nO 6R C d D ^\nO 6R C d D ^\nO 6R C d D ^\nO 6R C d D ^\nO 6R C d D ^\nO 6R C d D ^\nO 6G C d D ^ Y 7c\nO 6G C d D ^ Y 7c\nO 6G C d D ^ Y 7c\nO 72 C d D ^ Y 7c\nO 72 C d D ^ Y 7c\nO 6G C d D ^ Y 7c\nO 6G C d D ^ Y 7c\nO 6G C d D ^ Y 7c\nO 6l D ^ I c\nO 7c C b S 5k o 1 1LQ ~7d\nO 6R C d D ^\nO 6R C d D ^\nO 6R C d D ^\nO 6R C d D ^\nO 6R C d D ^\nO 6R C d D ^\nO 6R C d D ^\nO 6R C d D ^\nO 6G C d D ^ Y 7c\nO 6G C d D ^ Y 7c\nO 72 C d D ^ Y 7c\nO 6G C d D ^ Y 7c\nO 6G C d D ^ Y 7c\nO 6G C d D ^ Y 7c\nO 6G C d D ^ Y 7c\nO 6v D ^ I k ~5j\nO 6v D ^ I k ~5j\nO 6v D ^ I k ~5j\nO 6v D ^ I k ~5j\nO 6v D ^ I b\nO 6v D ^ I k ~5j\nO 6v D ^ I k ~bb\nO 6l D ^ I k ~59 o 1 2 ~7d\nO 6l D ^ I k ~59 o 1 2 ~7d\nO 6l D ^ I k ~bb o 1 2 ~7d\nO 6l D ^ I k ~59 o 1 2 ~7d\nO 6l D ^ I x o 1 2 ~7d\nO 6l D ^ I k ~WI o 1 2 ~7d\nO 6l D ^ I k ~59 o 1 2 ~7d\nO 6l D ^ I k ~7d o 1 2 ~7d\nO 6l D ^ I n o 1 2 ~7d\nT 5k P = q6 0 8s 3 8r 8s 5l C ^ a 3 1KX 8L 1L2 8M 2 ~59\nT 5k P = q4 0 5l 2 8s 5l C ^ a i 1KX 8u 1KY 8v 1L6 8w 1KZ 8x 1L0 8y 1L1 8z 1L2 8A 1MS 8B 1N8 8C 1N9 8D 1Na 8E 1Nb 8F 1L3 8G 1Nc 8H 1Nd 8I 1Ne 8J 1Nf 8K 2 ~59\nO 6l D ^\nO 7c C b S 8s o 1 1LQ ~7d\nO 6R C d D ^\nO 6R C d D ^\nO 6R C d D ^\nO 6R C d D ^\nO 6R C d D ^\nO 6R C d D ^\nO 6G C d D ^ o 2 2 ~7d 1L4 ~7d\nO 6G C d D ^ o 2 2 ~7d 1L4 ~7d\nO 6G C d D ^ o 1 1L4 ~7d\nO 6G C d D ^ o 1 1L4 ~7d\nO 6v D ^\nO 6l D ^ o 1 2 ~7d\nO 6l D ^ o 1 2 ~7d\nO 6l D ^ o 1 2 ~7d\nO 6l D ^\nO 6l D ^\nO 7c C b S 8r o 1 1LQ ~7d\nO 6R C d D ^\nT 5k P = 76 1 5l 2 8N 5l C q Ms - 76 a b 1LQ ~59 2 ~59 1L2 9x 1KY 9y 10L 9z 1M9 9A 1Ng 9B 1Nh 9C 1L3 9D 1M0 9E 1L5 ~7d\nT 5k P = pR 0 5l 2 8O 5l C ^ a B 1KX 8Y 1KY 8Z 1L5 ~7d 1KZ 90 10J 91 10K 92 10L 93 10M 94 10O 95 10N 96 1L7 97 1L2 98 1L9 99 11d 9a 11e 9b 11c 9c 10R 9d 110 9e 1La 9f 11b 9g 11f 9h 11l 9i 1Ni 9j 1LO 9k 1Nj 9l wg 9m 1Nk 9n 1Nl 9o 1Nm 9p 1Nn 9q 12r 9r cc 9s Rh 9t 1No 9u 1Np 9v 1Nq 9w 2 ~59 o 1 1L4 ~59\nT 5k P = pE 0 5j 3 8P 5j 5l C ^ a 9 1KX 8Q 1KY 8R 10S 8S 1Mi 8T 119 8U 1Mj 8V 113 8W 1Mk 8X 2 ~59\nO 7c C b S 8P o 1 1LQ ~7d\nO 6R C d D ^\nO 6R C d D ^\nO 6R C d D ^\nO 6R C d D ^\nO 6R C d D ^\nO 6R C d D ^\nO 6R C d D ^\nO 7c C b S 8O o 1 1LQ ~7d\nO 6R C d D ^\nO 6R C d D ^\nO 6R C d D ^\nO 6R C d D ^\nO 6R C d D ^\nO 6R C d D ^\nO 6R C d D ^\nO 6R C d D ^\nO 6R C d D ^\nO 6R C d D ^\nO 6R C d D ^\nO 6G C d D ^ Y 7c o 1 1L4 ~7d\nO 6R C d D ^\nO 6R C d D ^\nO 6R C d D ^\nO 6R C d D ^\nO 6R C d D ^\nO 6R C d D ^\nO 6R C d D ^\nO 6R C d D ^\nO 6G C d D ^ Y 7c\nO 6G C d D ^ Y 7c\nO 6G C d D ^ Y 7c\nO 6G C d D ^ Y 7c\nO 6G C d D ^ Y 7c\nO 6G C d D ^ Y 7c\nO 6G C d D ^ Y 7c\nO 6G C d D ^ Y 7c\nO 6G C d D ^ Y 7c\nO 6G C d D ^ Y 7c\nO 6G C d D ^ Y 7c\nO 6G C d D ^ Y 7c\nO 6G C d D ^ Y 7c\nO 72 C d D ^ Y 7c\nO 9I C ^ o 1 1Nr ~9J\nO 9I C ^\nO 9I C ^\nO 9F I k ~59 o 3 2 ~7d 1Ns aN 1Nt aO\nO 9F I k ~59 o 1 1Ns aM\nO 9F I k ~8P o 3 2 ~7d 1Ns 9G 1Nt 9H\nO 6l D ^ I k ~9J\nO 6l D ^ I k ~7d\nT 5k P = pP 0 5l 2 9F 5l C ^ a f 1KX ax 1KZ ay 1MY az 1MZ aA 1N0 aB 1L2 aC 1Nu aD 1Nv aE 1Nw aF 1Nx aG 1Ns aH 1Nt aI 1Ny aJ 2 aK 1Nz aL o 1 1L4 ~59\nO 9I C q Ms 76 1Nh\nO 9I C q Ms 76 1Nh\nT 5k P = 1NA 0 5l 2 9I 5l G f C q oV - 1NA a g 1KX ah 1KY ai 10T aj 1MY ak 1NB al 2 am 1NC an 1LQ ao 8 ap 1ND aq 1NE ar 1Nr as RL at 1L3 au 1 av 1MO aw o 1 1L4 ~59\nT 5k P = pK 0 5l 2 9J 5l C ^ a z 1KX 9K 1KY 9L 1L5 ~7d 1KZ 9M 10J 9N 10K 9O 10L 9P 10M 9Q 10O 9R 10N 9S 1L7 9T 1L2 9U 113 9V 1Mk 9W 11n 9X 1L9 9Y 11d 9Z 11e a0 11c a1 11b a2 1LO a3 1NF a4 1NG a5 1Nn a6 1NH a7 1NI a8 1NJ a9 1NK aa 1NL ab 1NM ac 1Nj ad wg ae 1Ni af 1Nq ag 2 ~59\nO 7c C b S 9J o 1 1LQ ~7d\nO 6R C d D ^\nO 6R C d D ^\nO 6R C d D ^\nO 6R C d D ^\nO 6R C d D ^\nO 6R C d D ^\nO 6R C d D ^\nO 6R C d D ^\nO 6R C d D ^\nO 6R C d D ^\nO 6R C d D ^\nO 6R C d D ^\nO 6R C d D ^\nO 6R C d D ^\nO 6G C d D ^ Y 7c o 1 1L4 ~7d\nO 6R C d D ^\nO 6R C d D ^\nO 6G C d D ^ Y 7c\nO 6G C d D ^ Y 7c o 1 1L4 ~7d\nO 6G C d D ^ Y 7c\nO 6G C d D ^ Y 7c\nO 6G C d D ^ Y 7c\nO 6G C d D ^ Y 7c\nO 6G C d D ^ Y 7c o 1 1L4 ~7d\nO 6G C d D ^ Y 7c o 1 1L4 ~7d\nO 6G C d D ^ Y 7c o 1 1L4 ~7d\nO 6G C d D ^ Y 7c o 1 1L4 ~7d\nO 72 C d D ^ Y 7c o 1 1L4 ~59\nO 6G C d D ^ Y 7c o 1 1L4 ~7d\nO 6G C d D ^ Y 7c o 1 1L4 ~7d\nO 6G C d D ^ Y 7c\nO 72 C d D ^ Y 7c\nO 7c C b S 9I o 1 1LQ ~7d\nO 6R C d D ^\nO 6R C d D ^\nO 6R C d D ^\nO 6v D ^ I k ~7d\nO 6v D ^ I k ~7d\nO 6v D ^ I k ~9J\nO 6v D ^ I k ~59\nO 6v D ^ I k ~9J\nO 6l D ^ I k ~dl o 1 2 ~7d\nO 6l D ^ I k ~7d o 1 2 ~7d\nO 6l D ^ I k ~7d o 1 2 ~7d\nO 6l D ^ I k ~9J o 1 2 ~7d\nO 6l D ^ I k ~9J o 1 2 ~7d\nO 6l D ^ I k ~59 o 1 2 ~7d\nO 6l D ^ I k ~59 o 1 2 ~7d\nO 7c C b S 9F o 1 1LQ ~7d\nO 6R C d D ^\nO 6R C d D ^\nO 6R C d D ^\nO 6R C d D ^\nO 6R C d D ^\nO 6G C d D ^ Y 7c o 1 1L4 ~7d\nO 6G C d D ^ Y 7c o 1 1L4 ~7d\nO 6G C d D ^ Y 7c o 1 1L4 ~7d\nO 6G C d D ^ Y 7c o 1 1L4 ~7d\nO 6v D ^ I k 3Rs\nO 6v D ^ I k ~7d\nO 6v D ^ I k ~7d\nO 6v D ^ I k ~59\nO 6l D ^ I k ~8P o 1 2 ~7d\nO 9I C q Ms 76 1Ng o 1 2 ~59\nO 9I C q Ms 76 1M9\nO 9I C q Ms 76 1M9\nO bz C ^ F bN a 5 1LQ ~59 1 ~59 1MO ~59 2 ~59 RL ~9J\nO b0 F bM a 5 1LQ ~59 1 ~59 1MO ~59 2 ~7d RL ~9J\nO b0 F bL a 5 1LQ ~59 1 ~59 1MO ~59 2 ~59 RL ~9J\nO bz C ^ F bK a 5 1LQ ~59 1 ~59 1MO ~59 2 ~59 RL ~9J\nO bz C ^ F bA a 5 1LQ ~59 1 ~59 1MO ~59 2 ~59 RL ~9J\nO b0 F by a 5 1LQ ~59 1 ~59 1MO ~59 2 ~59 RL ~9J\nO b0 F bx a 5 1LQ ~59 1 ~59 1MO ~59 2 ~59 RL ~9J\nO b0 F ba a 5 1LQ ~59 1 ~59 1MO ~59 2 ~59 RL ~9J\nO b0 F b1 a 5 1LQ ~59 1 ~59 1MO ~59 2 ~59 RL ~9J\nO 6l D ^\nO 6l D ^\nT 5k P = pI 0 5l 2 b0 5l G c C ^ a 9 1KX b2 1KY b3 1MY b4 1L2 b5 1NN b6 1NO b7 1Nz b8 1L3 b9 2 ~59\nO 9I C q Ms - 74 o 1 2 ~59\nO 7c C b S b0 o 1 1LQ ~7d\nO 6R C d D ^\nO 6R C d D ^\nO 6R C d D ^\nO 6v D ^ I f\nO 6v D ^ I f\nO 6l D ^ I k ~8P o 1 2 ~7d\nO 6l D ^ I k ~9J o 1 2 ~7d\nO 9I C q Ms 7g 1LY o 2 1NB ~bb 2 ~59\nT 5k P = q0 0 5l 2 bb 5l C ^ a m 1KX bc 1KY bd 1L5 be 1KZ bf 10J bg 10K bh 10L bi 10M bj 10O bk 10N bl 1L7 bm 1L9 bn 11d bo 10R bp 110 bq 1La br 11b bs 1LP bt cc bu Rh bv 1Nq bw 2 ~59 o 1 1L4 ~59\nO 7c C b S bb o 1 1LQ ~7d\nO 6R C d D ^\nO 6R C d D ^\nO 6R C d D ^\nO 6R C d D ^\nO 6R C d D ^\nO 6R C d D ^\nO 6R C d D ^\nO 6R C d D ^\nO 6R C d D ^\nO 6R C d D ^\nO 6R C d D ^\nO 6R C d D ^\nO 6R C d D ^\nO 6R C d D ^\nO 6R C d D ^\nO 6R C d D ^\nO 6G C d D ^ Y 7c o 1 2 ~7d\nO 6G C d D ^ Y 7c\nO 6G C d D ^ Y 7c\nO 72 C d D ^ Y 7c\nO 9I C q Ms 7g 1LX o 2 1NB ~bb 2 ~59\nO 9I C q Ms 7g 1LW o 2 1NB ~bb 2 ~59\nT 5k P = pX 0 5l 2 bz 5l G s C ^ a a 1KX bB 1KY bC 10T bD 1MY bE 1L2 bF 1NN bG 1NO bH 1Nz bI 1L3 bJ 2 ~59\nO 9I C q Ms 7g 1LV o 1 2 ~59\nO 7c C b S bz o 1 1LQ ~7d\nO 6R C d D ^\nO 6R C d D ^\nO 6R C d D ^\nO 6R C d D ^\nO 6v D ^ I f\nO 6v D ^ I f\nO 6l D ^ I k ~8P o 1 2 ~7d\nO 6l D ^ I k ~9J o 1 2 ~7d\nO 9I C q Ms 7g 1LU o 1 2 ~59\nO 9I C q Ms 7g 1LT o 2 1NE ~bb 2 ~59\nO 9I C q Ms 7g Oe o 1 1NE ~bb\nO 9I C q Ms 7g 1LS o 1 2 ~59\nO 7c C b S 59 o 1 1LQ ~7d\nO 6R C d D ^\nO 6R C d D ^\nO 6R C d D ^\nO 6R C d D ^\nO 6R C d D ^\nO 6R C d D ^\nO 6R C d D ^\nO 6R C d D ^\nO 6R C d D ^\nO 6R C d D ^\nO 6R C d D ^\nO 6R C d D ^\nO 6R C d D ^\nO 6R C d D ^\nO 6R C d D ^\nO 6R C d D ^\nO 6R C d D ^\nO 6R C d D ^\nO 6R C d D ^\nO 6G C d D ^ Y 7c\nO 6G C d D ^ Y 7c\nO 6G C d D ^ Y 7c\nO 6G C d D ^ Y 7c\nO 6G C d D ^ Y 7c\nO 6G C d D ^ Y 7c\nO 6G C d D ^ Y 7c\nO 6G C d D ^ Y 7c\nO 6G C d D ^ Y 7c\nO 6G C d D ^ Y 7c o 1 1L4 ~7d\nO 6G C d D ^ Y 7c\nO 6G C d D ^ Y 7c o 1 1L4 ~7d\nO 6G C d D ^ Y 7c\nO 6G C d D ^ Y 7c o 1 1L4 ~7d\nO 6G C d D ^ Y 7c\nO 6G C d D ^ Y 7c\nO 6G C d D ^ Y 7c\nO 6G C d D ^ Y 7c o 1 1L4 ~7d\nO 6G C d D ^ Y 7c o 1 1L4 ~7d\nO 6G C d D ^ Y 7c\nO 6G C d D ^ Y 7c\nO 6G C d D ^ Y 7c\nO 6G C d D ^ Y 7c\nO 6G C d D ^ Y 7c\nO 6G C d D ^ Y 7c\nO 6G C d D ^ Y 7c\nO 6G C d D ^ Y 7c\nO 6G C d D ^ Y 7c o 1 1L4 ~7d\nO 6G C d D ^ Y 7c o 1 1L4 ~7d\nO 6G C d D ^ Y 7c\nO 6G C d D ^ Y 7c\nO 6G C d D ^ Y 7c\nO 6G C d D ^ Y 7c\nO 6G C d D ^ Y 7c\nO 6G C d D ^ Y 7c\nO 6G C d D ^ Y 7c\nO 6G C d D ^ Y 7c\nO 6G C d D ^ Y 7c\nO 6G C d D ^ Y 7c\nO 6G C d D ^ Y 7c\nO 6G C d D ^ Y 7c\nO 6G C d D ^ Y 7c\nO 6G C d D ^ Y 7c\nO 6G C d D ^ Y 7c\nO 6G C d D ^ Y 7c o 1 1L4 ~7d\nO 6G C d D ^ Y 7c o 1 1L4 ~7d\nO 6G C d D ^ Y 7c\nO bz C t 1NP F cW\nO 6G C d D ^ Y 7c\nO 6G C d D ^ Y 7c o 2 2 ~7d 1L4 ~7d\nO 7c C q pA pY 1LN S ~7d o 1 1LQ ~7d\nO 7c C b S 58 o 1 1LQ ~7d\nO 6R C d D ^\nO 6R C d D ^\nO 6R C d D ^\nO 6R C d D ^\nO 6R C d D ^\nO 6G C d D ^ Y 7c o 1 1L4 ~7d\nO 6v D ^ I k ~9J\nO 6l D ^ I k ~9J o 1 2 ~7d\nT 5k P = 7h 1 5l 2 d6 5l C q Ms - 7h a h 1LQ ~59 2 ~59 1LR ~59 1LS fM 8D fN 1NQ fO Oe fP 1LT fQ 1LU fR 1LV fS 1LZ fT 1LW fU 1LX fV 1LY fW 1L3 fX 1M0 fY 1NR ~59\nO 8N a 9 11W ~59 1M1 d6 1M2 ~59 1M3 fw 1M4 ~7d 1M5 ~8O 1M6 ~8P 1M7 ~7d 1M8 ~8P o 1 1M9 ~7d\nO 9I C q Mt - 7S o 1 2 ~59\nO 9I C q Mt - 7R o 1 2 ~59\nT 5k P = 1Ka 1 fo 5 da fo 8r 8s 5l C ^ a 3 1LQ ~59 1M0 fp 2 ~7d o 1 2 ~7d\nT 5k P = pH 0 5l 2 db 5l C ^ a 13 1KX el 1KY em 1L5 en 1L6 eo 1KZ ep 10J eq 10K er 10L es 10M et 10O eu 10N ev 1L7 ew 10Z ex 1L8 ey 1L9 ez 11d eA 10R eB 110 eC 1La eD 11b eE 1LP eF 1NS eG 1Lc eH 1Lf eI Rh eJ 32 eK 1Lv eL 1Lg eM Kh eN 1NT eO pe eP cc eQ 1LH eR 1LG eS 1Ly eT 1LE eU 1Lz eV 1LC eW 1LB eX 1LA eY 10i eZ 1Li f0 1Lj f1 1Lk f2 1LN f3 1Lh f4 z5 f5 1Lw f6 1Lx f7 1Ll f8 1Lm f9 1Ln fa 1Lp fb 1Lb fc 1Lo fd 10k fe 1Lq ff 1Lu fg 1Lr fh 1Ls fi 1Le fj Iw fk 1Lt fl 1LK fm 2 ~59\nT 5k P = 19F 1 e1 3 dc e1 5l C o 56 a f 1LQ ~59 2 ~59 1L2 e2 Mh e3 1LT e4 Oe e5 1LW e6 19L e7 1NU e8 1LX e9 1LY ea 1LZ eb NV ec Mg ed 1KY ee\nO 9I C ^\nO 9I C ^\nO 9I C ^\nO 9I C ^\nO 9I C ^\nO 9I C ^\nO 9I C ^\nO 9I C ^\nT 5k P = sL 0 5l 2 dl 5l C q oV - sL a A 1KX ds 1KY dt 1L5 du 1KZ dv 10J dw 10K dx 10L dy 10M dz 10O dA 10N dB 1LO dC 1NV dD 1NW dE z5 dF 1NX dG 1NY dH 1NZ dI 1O0 dJ 1O1 dK 1O2 dL 1O3 dM 1O4 dN 1O5 dO 1O6 dP 1O7 dQ 1O8 dR 1O9 dS 1Oa dT 1Ob dU 1Oc dV 1Od dW 1Oe dX 1Of dY 1Og dZ 1Oh e0 2 ~59 o 1 1L4 ~59\nO 9I C ^\nO 9I C ^\nO 9I C ^\nO 9I C ^\nO 9I C ^\nO 9I C ^\nO 7c C b S dl o 1 1LQ ~7d\nO 6R C d D ^\nO 6R C d D ^\nO 6R C d D ^\nO 6R C d D ^\nO 6R C d D ^\nO 6R C d D ^\nO 6R C d D ^\nO 6R C d D ^\nO 6R C d D ^\nO 6G C d D ^ o 2 2 ~7d 1L4 ~7d\nO 6G C d D ^ o 2 2 ~7d 1L4 ~7d\nO 6G C d D ^ o 2 2 ~7d 1L4 ~7d\nO 6G C d D ^\nO 6G C d D ^\nO 6v D ^ Z k ~5j\nO 6v D ^ Z k ~5j\nO 6v D ^ Z k ~5j\nO 6v D ^ Z k ~5j\nO 6v D ^ Z k ~5j\nO 6v D ^ Z k ~5j\nO 6v D ^ Z k ~bb\nO 6v D ^ Z k ~bb\nO 6v D ^ Z k ~59\nO 6v D ^ Z k ~59\nO 6v D ^ Z k ~59\nO 6v D ^ Z k ~5j\nO 6v D ^ Z k ~db\nO 6v D ^ Z k ~db\nO 6l D ^ Z k ~db o 1 2 ~7d\nO 6l D ^ Z k ~db o 1 2 ~7d\nO 6l D ^ Z k ~bb o 1 2 ~7d\nO 6l D ^ Z k ~bb o 1 2 ~7d\nO 6l D ^ Z k ~bb o 1 2 ~7d\nO 6l D ^ Z k ~db o 1 2 ~7d\nT 5k P = 8s 1 5l 2 e1 5l C q Mt - 8s a 8 1LQ ~59 2 ~59 1LY ef 1LU eg 1LV eh 1LZ ei 1L3 ej 1M0 ek\nO 9I C ^\nO 9I C ^ o 2 1NE ~bb 2 ~59\nO 9I C ^ o 2 1NE ~bb 2 ~59\nO 9I C ^ o 2 1NE ~bb 2 ~59\nO 9I C ^ o 1 2 ~59\nO 9I C ^ o 1 2 ~59\nO 9I C ^ o 1 2 ~59\nO 9I C ^ o 1 2 ~59\nO 9I C ^ o 1 2 ~59\nO 9I C ^ o 1 2 ~59\nO 9I C ^ o 1 2 ~59\nO 9I C ^ o 1 2 ~59\nO 9I C ^\nO 9I C ^ o 1 2 ~59\nO 9I C ^ o 1 2 ~59\nO 9I C ^ o 1 2 ~59\nO 9I C ^ o 1 2 ~59\nO 6l D ^\nO 6l D ^\nO 7c C b S db o 1 1LQ ~7d\nO 6R C d D ^\nO 6R C d D ^\nO 6R C d D ^\nO 6R C d D ^\nO 6R C d D ^\nO 6R C d D ^\nO 6R C d D ^\nO 6R C d D ^\nO 6R C d D ^\nO 6R C d D ^\nO 6R C d D ^\nO 6R C d D ^\nO 6R C d D ^\nO 6R C d D ^\nO 6R C d D ^\nO 6R C d D ^\nO 6R C d D ^\nO 6R C d D ^\nO 6R C d D ^\nO 6G C d D ^ Y 7c o 2 2 ~7d 1L4 ~7d\nO 6G C d D ^ Y 7c\nO 6G C d D ^ Y 7c o 1 1L4 ~7d\nO 6G C d D ^ Y 7c\nO 6G C d D ^ Y 7c o 1 1L4 ~7d\nO 6G C d D ^ Y 7c\nO 6G C d D ^ Y 7c o 1 1L4 ~7d\nO 6G C d D ^ Y 7c\nO 6G C d D ^ Y 7c o 1 1L4 ~7d\nO 72 C d D ^ Y 7c o 1 1L4 ~59\nO 6G C d D ^ Y 7c\nO 6G C d D ^ Y 7c o 1 1L4 ~7d\nO 6G C d D ^ Y 7c o 1 1L4 ~7d\nO 6G C d D ^ Y 7c o 1 1L4 ~7d\nO 6G C d D ^ Y 7c o 1 1L4 ~7d\nO 6G C d D ^ Y 7c o 1 1L4 ~7d\nO 6G C d D ^ Y 7c o 1 1L4 ~7d\nO 6G C d D ^ Y 7c o 1 1L4 ~7d\nO 6G C d D ^ Y 7c o 1 1L4 ~7d\nO 6G C d D ^ Y 7c o 1 1L4 ~7d\nO 6G C d D ^ Y 7c\nO 6G C d D ^ Y 7c\nO 6G C d D ^ Y 7c o 1 1L4 ~7d\nO 6G C d D ^ Y 7c\nO bz C t 1NP F fn\nO 6G C d D ^ Y 7c\nO 6G C d D ^ Y 7c\nO 6G C d D ^ Y 7c\nO 6G C d D ^ Y 7c\nO 6G C d D ^ Y 7c o 1 1L4 ~7d\nO 6G C d D ^ Y 7c o 1 1L4 ~7d\nO 6G C d D ^ Y 7c\nO 6G C d D ^ Y 7c\nO 6G C d D ^ Y 7c\nO 6G C d D ^ Y 7c\nO 6G C d D ^ Y 7c\nO 6G C d D ^ Y 7c\nO 6G C d D ^ Y 7c o 1 1L4 ~7d\nO 6G C d D ^ Y 7c\nO 6G C d D ^ Y 7c o 1 1L4 ~7d\nO 6G C d D ^ Y 7c o 1 1L4 ~7d\nO 6G C d D ^ Y 7c\nO 6G C d D ^ Y 7c o 1 1L4 ~7d\nO 6G C d D ^ Y 7c\nO 7c C q pA pH 1LN S ~7d o 1 1LQ ~7d\nT 5k P = qf 0 8r 4 fo 8r 8s 5l C ^ a 7 1L6 fq 1L2 fr 1MS fs 1Oi ft 11W fu NL fv 2 ~59\nO 6l D ^\nO 6R C d D ^\nO 6R C d D ^\nO 6G C d D ^ o 2 2 ~7d 1L4 ~7d\nO 6v D ^ o 1 2 ~59\nO 6v D ^ o 1 2 ~59\nO 6v D ^ o 1 2 ~59\nO fx a 2 Ik ~59 1Oj ~59\nT 5k P 1Ok 1Ac 0 5l 2 fx 5l C ^ a g 1KX fy 1KY fz 1KZ fA 1L0 fB 1L1 fC 10J fD 10K fE 10L fF 10M fG 10O fH 10N fI 1L2 fJ 1MS fK 1L3 fL 2 ~59 1L5 ~7d\nO 7c C b S fx o 1 1LQ ~7d\nO 6R C d D ^\nO 6R C d D ^\nO 6R C d D ^\nO 6R C d D ^\nO 6R C d D ^\nO 6R C d D ^\nO 6R C d D ^\nO 6R C d D ^\nO 6R C d D ^\nO 6R C d D ^\nO 6R C d D ^\nO 6G C d D ^ Y 7c o 1 1L4 ~7d\nO 6v D ^ I k ~9J\nO bz C ^ F g9 a 5 1LQ ~59 1 ~59 1MO ~59 2 ~59 RL ~9J\nO b0 F g8 a 5 1LQ ~59 1 ~59 1MO ~59 2 ~7d RL ~9J\nO b0 F g7 a 5 1LQ ~59 1 ~59 1MO ~59 2 ~7d RL ~9J\nO b0 F g6 a 5 1LQ ~59 1 ~59 1MO ~59 2 ~7d RL ~9J\nO b0 F g5 a 5 1LQ ~59 1 ~59 1MO ~59 2 ~59 RL ~9J\nO bz C ^ F g4 a 5 1LQ ~59 1 ~59 1MO ~59 2 ~59 RL ~9J\nO bz C ^ F g3 a 5 1LQ ~59 1 ~59 1MO ~59 2 ~7d RL ~9J\nO b0 F g2 a 5 1LQ ~59 1 ~59 1MO ~59 2 ~59 RL ~9J\nO b0 F g1 a 5 1LQ ~59 1 ~59 1MO ~59 2 ~59 RL ~9J\nO b0 F g0 a 5 1LQ ~59 1 ~59 1MO ~59 2 ~59 RL ~9J\nO b0 F fZ a 5 1LQ ~59 1 ~59 1MO ~59 2 ~59 RL ~9J\nO 6l D ^\nO 6l D ^\nO 9I C q Ms 7h 1LY o 2 1NB ~bb 2 ~59\nO 9I C q Ms 7h 1LX o 2 1NB ~bb 2 ~59\nO 9I C q Ms 7h 1LW o 2 1NB ~bb 2 ~59\nO 9I C q Ms 7h 1LZ o 1 2 ~59\nO 9I C q Ms 7h 1LV\nO 9I C q Ms 7h 1LU o 1 2 ~59\nO 9I C q Ms 7h 1LT o 2 1NE ~bb 2 ~59\nO 9I C q Ms 7h Oe o 1 1NE ~bb\nO 9I C q Ms 7h 1NQ o 1 1NE ~bb\nO 9I C q Ms 7h 8D\nO 9I C q Ms 7h 1LS o 1 2 ~59\nO kA a 2 11W ~59 NL ~59\nO 8N a 9 11W ~59 1M1 ga 1M2 ~59 1M3 ~7d 1M4 ~7d 1M5 ~8O 1M6 ~8P 1M7 ~59 1M8 ~8P\nT 5k P = 1Ii 1 8r 4 gc 8r 8s 5l C ^ a 3 1LQ ~59 1M0 kz 2 ~7d o 1 2 ~7d\nT 5k P = 1Ij 1 8r 4 gd 8r 8s 5l C ^ a 3 1LQ ~59 2 ~59 1M0 ky\nT 5k P 1Ol lj 1 5l 2 ge 5l C ^ a f 1KX kl 1KZ km 1L0 kn 1L1 ko 1L2 kp le kq lf kr lg ks lh kt li ku 1LO kv p9 kw 1Om kx 2 ~59 1LQ ~59\nO 9I C ^\nO 9I C ^\nO 9I C ^ o 1 2 ~59\nO 9I C ^ o 1 2 ~59\nO 9I C ^ o 1 2 ~59\nT 5k P = 1JO 1 5l 2 gk 5l C ^ a v 1LQ ~59 2 ~59 1On ~bb 1L2 jS 1KY jT 1Oo jU 1Op jV 1Oq jW 1Or jX 1Os jY 1Ot jZ 1Ou k0 1Ov k1 1Ow k2 1Ox k3 1Oy k4 1Oz k5 1OA k6 1OB k7 1OC k8 1OD k9 1OE ka 1OF kb 1OG kc Ik kd 1OH ke 1OI kf 1OJ kg 1OK kh 1OL ki 1OM kj\nO 9I C ^\nO 9I C ^\nT 5k P = bP 1 5l 2 gn 5l C ^ a 8 1LQ ~59 1L2 jM 1ON jN rl jO 1OO jP 1L3 jQ 1M0 jR 2 ~7d o 1 2 ~7d\nT 5k P = bQ 1 5l 2 go 5l C ^ a 6 1LQ ~59 1L2 jI rm jJ 1L3 jK 1M0 jL 2 ~7d o 1 2 ~7d\nO 9I C ^\nO 9I C ^ o 1 1NE ~bb\nO 9I C ^\nT 5k P = 1JW 1 5l 2 gs 5l C ^ a 9 1LQ ~59 1L2 jB 1OP jC 1OQ jD 13k jE eD jF 1L3 jG 1M0 jH 2 ~7d o 1 2 ~7d\nT 5k P = 1JX 1 5l 2 gt 5l C ^ a 9 1LQ ~59 1L2 ju 13o jv 1OP jw 1OO jx eD jy 1L3 jz 1M0 jA 2 ~7d o 1 2 ~7d\nT hS P = 1JY 1 hT 6 gu hT hU hV hW 5l C ^ a m 1LQ ~59 2 ~59 1OR ~5j 1OS ~5j 1OT ~5j 1L2 jf 1OU jg 1KY jh 1OV ji 1OW jj 1OX jk 13k jl 1OY jm 1OZ jn 1P0 jo 1P1 jp eD jq 1P2 jr 1OQ js 1OP jt 1MQ ~i2 1P3 ~i3\nT hS P = 1JZ 1 hT 6 gv hT hU hV hW 5l C ^ a 9 1LQ ~59 1L2 hX 1P4 hY 1P5 hZ 13o i0 eD i1 2 ~7d 1MQ ~i2 1P3 ~i3\nT 5k P = 1K0 1 5l 2 gw 5l C ^ a x 1LQ ~59 2 ~59 1P6 ~7d 1P7 ~7d 1L2 hm 1P8 hn 1P9 ho 1KY hp 1Pa hq 1Pb hr 1Pc hs 1Pd ht 1Pe hu 1Pf hv 1Pg hw 1Ox hx 13k hy 9E hz 1Ph hA 1Pi hB 1Pj hC 1Pk hD 1Pl hE 1Pm hF 13o hG 1Pn hH 12c hI 1Po hJ eD hK 1Pp hL 1Pq hM 1L3 hN 1M0 hO\nT 5k P = 1K1 1 gw 3 gx gw 5l C ^ a 5 1LQ ~59 2 ~59 1L2 hj 1Pr hk 1Ps hl\nO 9I C ^ o 1 2 ~59\nO 9I C ^ o 1 2 ~59\nO 7c C q pA pK 1NM S 9J o 1 1LQ ~7d\nO 9I C ^ o 1 2 ~59\nT 5k P = 1K6 1 gw 3 gC gw 5l C ^ a 8 1LQ ~59 2 ~59 1Pt hb 1Pb hc 1Pu hd 1Pv he 1Pf hf 1Pw hg\nT 5k P = 1K7 1 gC 4 gD gC gw 5l C ^ a 4 1LQ ~59 2 ~59 1Pb h9 1Pu ha\nO 9I C ^ o 1 1NE ~bb\nT 5k P = RT 1 5l 2 gF 5l C ^ a q 1LQ ~59 2 ~59 1Px ~59 1L2 gH 9E gI ug gJ 11W gK 1Py gL 1Pz gM 1PA gN Ik gO NJ gP 1PB gQ 1PC gR 1PD gS 1Os gT 1PE gU JD gV 1PF gW 1L6 gX 1KY gY 1PG gZ 118 gZ 1Ng h0 1L3 h1 1M0 h2\nO 9I C ^ o 1 1NE ~bb\nO 9I C ^ o 2 1NE ~bb 2 ~59\nO 9I C ^ o 3 1NE ~bb 2 ~59 1Nr ~9J\nO 9I C ^\nO 9F o 2 2 ~7d 1Ns h8\nO 9F o 2 2 ~7d 1Ns h7\nO 9F o 2 2 ~7d 1Ns h6\nO 9F o 2 2 ~7d 1Ns h5\nO 9F o 2 2 ~7d 1Ns h4\nO 9I C ^\nO 9I C ^\nO 9I C ^\nO 9I C ^\nO 9I C ^\nO 9I C ^\nO 9I C ^\nO 9I C ^\nO 9I C ^\nO 9I C ^\nO 9I C ^\nO 9F o 2 2 ~7d 1Ns h3\nO 6l D ^\nO 6l D ^\nO 9I C q MI RT 1Ng\nO 9I C q MI RT Ik\nO 9I C q MI RT 1PA\nO 9I C q MI RT 1Pz\nO 9I C q MI RT 1Py\nO 9I C q MI RT 11W\nO 9I C ^ o 1 1NB ~bb\nO 9I C ^ o 1 1NB ~bb\nO bz C ^ F hi a 5 1LQ ~59 1 ~59 1MO ~59 2 ~7d RL ~9J\nO 9I C ^ o 1 1NB ~bb\nO 9I C ^\nO 9I C ^ o 1 2 ~59\nO 9I C ^ o 2 1NB ~bb 2 ~59\nO b0 F hh a 5 1LQ ~59 1 ~59 1MO ~59 2 ~59 RL ~9J\nO 9I C q MI 1K6 1Pw o 1 2 ~59\nO 9I C q MI 1K6 1Pt\nO 9I C ^ o 1 1NE ~bb\nO 9I C ^ o 2 1NE ~bb 2 ~59\nO 9I C ^ o 1 2 ~59\nO 9I C ^ o 3 1NE ~bb 2 ~59 1Nr ~9J\nO 9I C ^\nO 9I C ^\nO 9I C ^\nO 9I C ^ o 1 2 ~59\nO 9I C ^ o 1 2 ~59\nO 9I C ^ o 1 2 ~59\nO 9I C ^ o 2 1NE ~bb 2 ~59\nO 9I C ^ o 1 2 ~59\nO 9I C ^ o 1 2 ~59\nO 9I C ^ o 1 2 ~59\nO 9F o 2 1Ns hQ 1Nt hR\nO 9I C ^ o 2 1NE ~bb 2 ~59\nO 9I C ^ o 3 1NE ~bb 2 ~59 1Nr ~9J\nO 9I C ^ o 1 1NE ~bb\nO 9I C ^ o 2 1NE ~bb 2 ~59\nO 9I C ^ o 2 1NE ~bb 2 ~59\nO b0 F hP a 5 1LQ ~59 1 ~59 1MO ~59 2 ~59 RL ~9J\nO 9I C ^ o 1 2 ~59\nO 9I C ^ o 1 2 ~59\nO 9I C ^ o 2 1NE ~bb 2 ~59\nO 9I C ^ o 2 1NE ~bb 2 ~59\nO 9I C ^ o 2 1NE ~bb 2 ~59\nO 9I C ^ o 1 2 ~59\nO 9I C ^ o 1 2 ~59\nO 9I C ^\nO 9I C ^\nO 6l D ^\nO 6l D ^\nO 9I C q MI 1K0 1Pk o 1 2 ~59\nO 9I C q MI 1K0 1Ox o 1 2 ~59\nO 9I C q MI 1K0 1Ox\nT 5k P = 3K 1 5k 3 hS 5k 5l C o O a 9 1LQ ~59 2 ~59 1KX j7 2Y j8 1MF j9 1MG ja 1PH jb 1PI jc 1PJ jd\nT hS P = QA 1 hU 5 hT hU hV hW 5l C ^ a 4 1LQ ~59 2 ~59 1MQ ~i2 1P3 ~i3\nT 5k P 1PK 9M 0 hW 3 hU hW 5l C q 7D - 9M a 7 1PL j1 13k j2 1OZ j3 1PM j4 1PN j5 13o j6 2 ~59\nT hS P = Qy 1 hW 3 hV hW 5l C ^ a 4 1LQ ~59 2 ~59 1MQ ~i2 1P3 ~i3\nT 5k P 1PO 9K 0 5l 2 hW 5l C q 7D - 9K a q 1KX iC 1L7 iD 1PP iE 1Po iF 1OQ iG 1OP iH 13D iI 1OO iJ eD iK 1P2 iL 1OX iM 1P5 iN 1PQ iO 1PR iP 1PS iQ 1PT iR In iS 13u iT 1P8 iU 1P9 iV 1OV iW 1PU iX 1PV iY 1L3 iZ 1PW j0 2 ~59\nO 9I C ^\nO 9F o 2 2 ~7d 1Ns iB\nO 9I C ^\nO 9I C ^\nO 9I C ^ o 1 1NB ~bb\nT 5k P = pO 0 5l 2 i2 5l C ^ a x 1KX i5 1KY i6 1L5 i7 1KZ i8 10J i9 10K ia 10L ib 10M ic 10O id 10N ie 1L7 if 117 ig 1Mb ih 10S ii 1Mi ij 119 ik 1Mj il 113 im 1Mk in 1L9 io 11b ip wg iq 1PX ir 1PY is 1PZ it 1Q0 iu 1Q1 iv 1MS iw 1LO ix 1Q2 iy 1Q3 iz 1Nq iA 2 ~59\nT 5k P 1Q4 1Q5 1 5l 2 i3 5l C q w - 1Q5 a 3 1KX i4 2 ~59 1LQ ~59\nO 7c C b S i3 o 1 1LQ ~7d\nO 7c C b S i2 o 1 1LQ ~7d\nO 6R C d D ^\nO 6R C d D ^\nO 6R C d D ^\nO 6R C d D ^\nO 6R C d D ^\nO 6R C d D ^\nO 6R C d D ^\nO 6R C d D ^\nO 6R C d D ^\nO 6R C d D ^\nO 6R C d D ^\nO 6R C d D ^\nO 6R C d D ^\nO 6R C d D ^\nO 6R C d D ^\nO 6R C d D ^\nO 6R C d D ^\nO 6R C d D ^\nO 6R C d D ^\nO 6G C d D ^ Y 7c o 1 1L4 ~7d\nO 6G C d D ^ Y 7c o 1 1L4 ~7d\nO 6G C d D ^ Y 7c o 1 1L4 ~7d\nO 6G C d D ^ Y 7c o 1 1L4 ~7d\nO 6G C d D ^ Y 7c o 1 1L4 ~7d\nO 6G C d D ^ Y 7c\nO 6G C d D ^ Y 7c\nO 6G C d D ^ Y 7c o 1 1L4 ~7d\nO 6G C d D ^ Y 7c o 1 1L4 ~7d\nO 6G C d D ^ Y 7c o 1 1L4 ~7d\nO 6G C d D ^ Y 7c o 1 1L4 ~7d\nO 72 C d D ^ Y 7c\nO 9I C q MI 1JZ 1P4\nO 7c C b S hW o 1 1LQ ~7d\nO 6R C d D ^\nO 6R C d D ^\nO 6R C d D ^ o 2 2 ~7d 1L4 ~7d\nO 6G C d D ^ Y 7c\nO 6G C d D ^ Y 7c\nO 6G C d D ^ Y 7c o 1 1L4 ~7d\nO 6G C d D ^ Y 7c\nO 6G C d D ^ Y 7c\nO 6G C d D ^ Y 7c\nO 6G C d D ^ Y 7c\nO 6G C d D ^ Y 7c\nO 6G C d D ^ Y 7c o 2 2 ~7d 1L4 ~7d\nO 6G C d D ^ Y 7c o 2 2 ~7d 1L4 ~7d\nO 6G C d D ^ Y 7c o 2 2 ~7d 1L4 ~7d\nO 6G C d D ^ Y 7c o 2 2 ~7d 1L4 ~7d\nO 6G C d D ^ Y 7c\nO 6G C d D ^ Y 7c\nO 6G C d D ^ Y 7c o 2 2 ~7d 1L4 ~7d\nO 6G C d D ^ Y 7c o 2 2 ~7d 1L4 ~7d\nO 6G C d D ^ Y 7c\nO 6G C d D ^ Y 7c\nO 6G C d D ^ Y 7c\nO 6l D ^ I k ~9J o 1 2 ~7d\nO 6l D ^ o 1 2 ~7d\nO 6G C d D ^ Y 7c\nO 6G C d D ^ Y 7c o 1 1L4 ~7d\nO 6G C d D ^ Y 7c o 1 1L4 ~7d\nO 6G C d D ^ Y 7c o 1 2 ~7d\nO 6G C d D ^ Y 7c o 1 2 ~7d\nO 6G C d D ^ Y 7c o 1 1L4 ~7d\nO bz C t 1NP F je\nO 9I C ^ o 1 2 ~59\nO 9I C ^ o 1 2 ~59\nO 9I C ^ o 1 2 ~59\nO 9I C ^ o 2 1NE ~bb 2 ~59\nO 9I C ^ o 1 2 ~59\nO 9I C ^ o 1 2 ~59\nO 9I C q lY 3K 1KX o 1 1NB ~bb\nO 9I C ^ o 1 1NE ~bb\nO 9I C ^\nO 9I C ^\nO 9I C ^ o 2 1NE ~bb 2 ~59\nO 9I C ^ o 2 1NE ~bb 2 ~59\nO 9I C ^\nO 9I C ^ o 2 1NE ~bb 2 ~59\nO 9I C ^\nO 9I C ^ o 1 2 ~59\nO 9I C ^\nO 9I C ^\nO 9I C ^ o 1 1NB ~bb\nO 9I C ^\nO 9I C ^ o 1 1NE ~bb\nO 9I C ^\nO 9I C ^\nO 9I C ^\nO 9I C ^\nO 9I C ^\nO 9I C ^\nO 6l D ^\nO 6l D ^\nO 9I C ^\nO 9I C ^\nO 9I C ^ o 1 1NE ~bb\nO 9I C ^ o 1 1NE ~bb\nO 9I C ^\nO 6l D ^\nO 6l D ^\nO 9I C ^\nO 9I C ^\nO 6l D ^\nO 6l D ^\nO 9I C ^\nO 9I C ^\nO 9I C ^\nO 9I C ^\nO 6l D ^\nO 6l D ^\nO 9I C ^ o 1 1NE ~bb\nO 9I C ^\nO 9I C ^ o 2 1NE ~bb 2 ~59\nO 9I C ^\nO 9I C ^\nO b0 F kk a 5 1LQ ~59 1 ~59 1MO ~59 2 ~59 RL ~9J\nO 9I C ^ o 1 2 ~59\nO 6v D ^\nO 6v D ^\nO 6v D ^\nO 6v D ^\nO 6v D ^\nO 6v D ^\nO 6v D ^\nO 6v D ^\nO 6v D ^\nO 6v D ^\nO 6v D ^\nO 6v D ^\nO 6v D ^\nO 6v D ^\nO 6v D ^\nO 6v D ^\nO 6v D ^\nO 6v D ^\nO 6v D ^\nO 6v D ^\nO 6v D ^\nO 9I C q MI 1JO 1Or o 3 1NE ~bb 2 ~59 1Nr ~9J\nO 7c C b S ge o 1 1LQ ~7d\nO 6R C d D ^\nO 6R C d D ^\nO 6R C d D ^\nO 6R C d D ^\nO 6G C d D ^ Y 7c\nO 6G C d D ^ Y 7c o 1 1L4 ~7d\nO 6G C d D ^ Y 7c o 1 1L4 ~7d\nO 6G C d D ^ Y 7c\nO 6G C d D ^ Y 7c\nO 6G C d D ^ Y 7c o 1 1L4 ~7d\nO 6l D ^ Z k ~59\nO 6l D ^ Z k ~5j\nO 6l D ^\nO 6l D ^\nT 5k P = 8v 1 kB 5 kA kB kC e1 5l C q Mt - 8v a 5 1LQ ~59 2 ~59 1Q6 kD 1Q7 kE 1Q8 kF\nT 5k P = 8u 1 5l 2 kB 5l C q Mt - 8u a b 1LQ ~59 2 ~59 1L2 kN 10L kO 1L5 kP 1LZ kQ 1NU kR 19L kS NV kT 1L3 kU 1M0 kV\nT 5k P = 8t 1 e1 3 kC e1 5l C q Mt - 8t a 9 1LQ ~59 1Q9 kG 1Q6 kH 1Q7 kI 1Q8 kJ 1LX kK 1Qa kL 1LW kM 2 ~7d o 1 2 ~7d\nO 9I C ^ o 1 2 ~59\nO 9I C ^\nO 9I C ^ o 2 2 ~59 1Nr ~9J\nO 9I C ^ o 1 2 ~59\nO 9I C ^ o 1 2 ~59\nO 9I C ^ o 1 2 ~59\nO 9I C ^ o 1 2 ~59\nO 9I C ^ o 1 2 ~59\nO 9I C ^ o 2 2 ~59 1Nr ~9J\nO 9I C ^ o 1 2 ~59\nO 9I C ^ o 1 2 ~59\nO 9I C ^\nO 9I C ^\nO 9I C ^ o 3 1NB ~bb 1NE ~bb 2 ~59\nO 9I C ^ o 3 1NB ~bb 1NE ~bb 2 ~59\nO 9I C ^ o 1 2 ~59\nO 9I C ^ o 2 1NB ~bb 1NE ~bb\nO 6l D ^ I k ~9J\nO 6l D ^ I k ~7d\nO kA a 2 11W ~59 NL ~59\nO 8N a 9 11W ~59 1M1 kW 1M2 ~59 1M3 ~7d 1M4 ~7d 1M5 ~8O 1M6 ~8P 1M7 ~59 1M8 ~8P\nT 5k P = 1HN 1 mc 5 kY mc 8r 8s 5l C o 52 a 2 1LQ ~59 2 ~59\nT 5k P = 1HL 1 mc 5 kZ mc 8r 8s 5l C o 52 a 2 1LQ ~59 2 ~59\nT 5k P = 1Id 1 5l 2 l0 5l C ^ a j 1LQ ~59 2 ~59 1L2 lV mT lW 1Qb lX 1Qc lY 1Qd lZ 1Qe m0 1Qf m1 1Qg m2 1Qh m3 1Qi m4 1Qj m5 1Qk m6 1Ql m7 1Qm m8 1Qn m9 1L3 ma 1M0 mb\nT 5k P = 1Ie 1 l0 3 l1 l0 5l C ^ a 8 1LQ ~59 2 ~59 1L2 lP mT lQ 1Qo lR 1Qp lS eD lT 1Qq lU\nT 5k P = 1If 1 5l 2 l2 5l C ^ a 8 1LQ ~59 2 ~59 1Qr lJ 1Qs lK 1Qt lL 1Qu lM 1L3 lN 1M0 lO\nT 5k P = 1HH 1 5l 2 l3 5l C o 54 a f 1LQ ~59 2 ~59 1L2 lw 1Qv lx 1Qt ly 1Qw lz 1Qu lA 1Qx lB 1Qy lC 1Qz lD 1QA lE 1QB lF 1QC lG 1L3 lH 1M0 lI\nT 5k P = 1Ig 1 5l 2 l4 5l C ^ a l 1LQ ~59 1L2 ld 1QD le 1QE lf 1QF lg 1QG lh 1QH li 1QI lj 1QJ lk 1QK ll 1L9 lm 11d ln 1NI lo 11b lp 1NF lq wg lr 1NJ ls 1NK lt 1L3 lu 1M0 lv 2 ~7d o 1 2 ~7d\nT 5k P = 1Ih 1 l4 3 l5 l4 5l C ^ a 8 1LQ ~59 1L2 l7 1QG l8 1QH l9 1QI la 1QK lb wg lc 2 ~7d o 1 2 ~7d\nO 9I C ^\nO 9I C ^ o 1 2 ~59\nO 9I C ^\nO 9I C ^\nO 9I C ^\nO 9I C ^\nO 9I C ^\nO 9I C ^ o 1 2 ~59\nO 9I C ^\nO 9I C ^\nO 9I C ^\nO 9I C ^\nO 9I C ^\nO 9I C ^\nO 9I C ^\nO 9I C ^\nO 9I C ^\nO 9I C ^\nO 9I C ^\nO 9I C ^\nO 9I C ^ o 1 1NE ~bb\nO 9I C ^\nO 9I C ^\nO 9I C ^\nO 6l D ^\nO 6l D ^\nO 9I C ^ o 1 1NE ~bb\nO 9I C ^ o 1 2 ~59\nO 9I C ^ o 1 2 ~59\nO 9I C ^ o 1 2 ~59\nO 9I C ^ o 1 2 ~59\nO 9I C ^ o 1 2 ~59\nO 9I C ^ o 1 2 ~59\nO 9I C ^ o 1 2 ~59\nO 9I C ^ o 1 2 ~59\nO 9I C ^ o 1 2 ~59\nO 9I C ^ o 1 2 ~59\nO 6l D ^\nO 6l D ^\nO 9I C ^ o 1 2 ~59\nO 9I C ^ o 1 2 ~59\nO 9I C ^ o 1 2 ~59\nO 9I C ^ o 1 2 ~59\nO 6l D ^\nO 6l D ^\nO 9I C ^ o 1 1NE ~bb\nO 9I C ^\nO 9I C ^ o 1 2 ~59\nO 9I C ^ o 1 2 ~59\nO 9I C ^ o 1 2 ~59\nO 9I C ^ o 1 2 ~59\nO 9I C ^\nO 9I C ^ o 1 2 ~59\nO 9I C ^ o 1 2 ~59\nO 9I C ^ o 1 2 ~59\nO 9I C ^ o 1 2 ~59\nO 9I C ^ o 1 2 ~59\nO 9I C ^ o 1 2 ~59\nO 9I C ^ o 1 2 ~59\nO 9I C ^ o 1 2 ~59\nO 9I C ^ o 1 2 ~59\nO 9I C ^ o 1 2 ~59\nO 9I C ^ o 1 2 ~59\nO 9I C ^ o 1 2 ~59\nO 9I C ^ o 1 2 ~59\nO 9I C ^ o 1 2 ~59\nO 6l D ^\nO 6l D ^\nT 5k P = 1HK 1 8r 4 mc 8r 8s 5l C o 52 a 8 1LQ ~59 2 ~59 1L2 md 1QL me 1QM mf 1L6 mg 11d mh 1M0 mi\nO 9I C ^ o 2 1NE ~bb 2 ~59\nO 9I C ^ o 1 2 ~59\nO 9I C ^ o 1 2 ~59\nO 9I C ^ o 1 2 ~59\nO 9I C ^ o 1 2 ~59\nO 6l D ^\nO kA a 2 11W ~59 NL ~59\nO 8N a 9 11W ~59 1M1 mj 1M2 ~59 1M3 ~7d 1M4 ~7d 1M5 ~8O 1M6 ~8P 1M7 ~59 1M8 ~8P\nT 5k P = 1HJ 1 5l 2 ml 5l C o 53 a 7 1LQ ~59 2 ~59 eX mU 1QN mV VS mW 1L3 mX 1M0 mY\nT 5k P = 1HI 1 5l 2 mm 5l C o 53 a i 1LQ ~59 2 ~59 1L2 mE 1QO mF 1QP mG 1QQ mH 1QR mI 1QS mJ 1QT mK 1QU mL 1QV mM 1QW mN 1QX mO 1QY mP 1QZ mQ 1R0 mR 1L3 mS 1M0 mT\nT 5k P = 1HV 1 5l 2 mn 5l C ^ a 6 1LQ ~59 2 ~59 1R1 mA 1R2 mB 1L3 mC 1M0 mD\nT 5k P = 1HW 1 5l 2 mo 5l C ^ a 5 1LQ ~59 2 ~59 1R3 mx 1L3 my 1M0 mz\nT 5k P = 1Ib 1 5l 2 mp 5l C ^ a 9 1LQ ~59 2 ~59 1Ox mq 1R4 mr 1R5 ms 1R6 mt 1R7 mu 1L3 mv 1M0 mw\nO 9I C ^ o 1 2 ~59\nO 9I C ^ o 1 2 ~59\nO 9I C ^ o 1 2 ~59\nO 9I C ^ o 1 2 ~59\nO 9I C ^ o 1 2 ~59\nO 6l D ^\nO 6l D ^\nO 9I C ^ o 1 2 ~59\nO 6l D ^\nO 6l D ^\nO 9I C ^ o 1 2 ~59\nO 9I C ^ o 1 2 ~59\nO 6l D ^\nO 6l D ^\nO 9I C ^\nO 9I C ^ o 1 2 ~59\nO 9I C ^ o 1 2 ~59\nO 9I C ^ o 1 2 ~59\nO 9I C ^ o 1 2 ~59\nO 9I C ^ o 1 2 ~59\nO 9I C ^ o 1 2 ~59\nO 9I C ^ o 1 2 ~59\nO 9I C ^ o 1 2 ~59\nO 9I C ^ o 1 2 ~59\nO 9I C ^ o 1 2 ~59\nO 9I C ^ o 1 2 ~59\nO 9I C ^ o 1 2 ~59\nO 9I C ^ o 1 2 ~59\nO 6l D ^\nO 6l D ^\nO 9I C ^ o 1 2 ~59\nO 9I C ^ o 1 2 ~59\nO 9I C ^ o 1 2 ~59\nO 6l D ^\nO 6l D ^\nO kA a 2 11W ~59 NL ~59\nO 8N a 9 11W ~59 1M1 mZ 1M2 ~59 1M3 ~7d 1M4 ~7d 1M5 ~8O 1M6 ~8P 1M7 ~59 1M8 ~8P\nT 5k P = 1HM 1 mc 5 n1 mc 8r 8s 5l C o 52 a 8 1LQ ~59 2 ~59 1L2 n3 1Qr n4 1Qs n5 1Qt n6 1Qu n7 1L6 n8\nT 5k P = 1HO 1 kY 6 n2 kY mc 8r 8s 5l C o 52 a 2 1LQ ~59 2 ~59\nO 9I C ^ o 1 2 ~59\nO 9I C ^ o 1 2 ~59\nO 9I C ^ o 1 2 ~59\nO 9I C ^ o 1 2 ~59\nO 9I C ^ o 1 2 ~59\nO 9I C ^ o 1 2 ~59\nO kA a 2 11W ~59 NL ~59\nO 8N a 9 11W ~59 1M1 n9 1M2 ~59 1M3 ~7d 1M4 ~8O 1M5 ~8O 1M6 ~8P 1M7 ~59 1M8 ~8P\nO 9I C ^ o 1 1NE ~bb\nO 9I C ^ o 1 1NE ~bb\nO 9I C ^ o 2 1NE ~bb 2 ~59\nO 9I C ^\nO kA a 2 11W ~59 NL ~59\nO 8N a 9 11W ~59 1M1 nf 1M2 ~59 1M3 ~7d 1M4 ~7d 1M5 ~8O 1M6 ~8P 1M7 ~59 1M8 ~8P\nT 5k P = 6G 1 ra 5 nh ra 8r 8s 5l C o 50 a 3 1LQ ~59 1M0 rb 2 ~7d o 1 2 ~7d\nO 9I C ^ o 1 2 ~59\nT 5k P 1R8 6H 0 5l 2 nj 5l C o 50 a y 1KX qD 1KY qE 1KZ qF 1L2 qG 1L9 qH 11d qI 11e qJ 11c qK 1Nj qL 1NF qM pW qN Kh qO 1H5 qP 1do qQ 1Nk qR 1Nm qS 1Nl qT 12r qU pj qV 1R9 qW 1H4 qX 1NJ qY 1NI qZ 1Ra r0 1Rb r1 1Rc r2 1LO r3 1MT r4 1N8 r5 1Rd r6 1gA r7 1Re r8 1Rf r9 2 ~7d o 1 2 ~7d\nO 7c C ^ S g o 2 2 ~7d 1L4 ~7d\nO 9I C ^ o 2 1NE ~bb 2 ~59\nO 9I C ^ o 2 1NE ~bb 2 ~59\nT 5k P = 1Ha 1 5l 2 nn 5l C ^ a d 1LQ ~59 2 ~59 1L2 qs 1L6 qt 1KY qu 1L5 qv 10K qw 10J qx 10N qy 10O qz 10L qA 1L3 qB 1M0 qC\nT 5k P = 1GP 1 5l 2 no 5l C ^ a f 1LQ ~59 2 ~59 1L2 qf 1Rg qg 1Rh qh mT qi pj qj Kh qk 1H5 ql 1do qm 1H4 qn 13o qo 1Ri qp 1L3 qq 1M0 qr\nO 9I C ^ a 1 1NO qe o 1 1NB ~bb\nO 9I C ^ o 1 1NE ~bb\nO 9I C ^\nT 5k P = pW 0 5l 2 ns 5l C ^ a L 1KX pv 1KY pw 1L5 ~7d 1KZ px 10J py 10K pz 10L pA 10M pB 10O pC 10N pD 1L7 pE 1L2 pF 117 pG 1Mb pH 10S pI 1Mi pJ 119 pK 1Mj pL 113 pM 1Mk pN 11q pO 11g pP 11s pQ 11n pR 1L9 pS 11b pT cd pU 1Nj pV wg pW 1Rj pX 1PX pY 1Rk pZ 1PY q0 1Rl q1 1PZ q2 1Q0 q3 1Q1 q4 1Nn q5 1MS q6 12r q7 1LO q8 1Q2 q9 1Rm qa 1Q3 qb 1NL qc 1Nq qd 2 ~59\nO 9I C ^\nO 9I C ^\nO 9I C ^ a 1 1Hj ~9J o 1 2 ~59\nO 9I C ^\nO 9I C ^\nO 9I C ^\nO 9I C ^\nO 9I C ^ o 3 1NE ~bb 2 ~59 1Nr ~9J\nT hS P = 1Hp 1 hT 6 nB hT hU hV hW 5l C ^ a 9 1LQ ~59 2 ~59 1L2 pq 1P5 pr 1P2 ps 13o pt 1OP pu 1MQ ~i2 1P3 ~i3\nO 9I C ^ o 2 1NE ~bb 1Nr ~9J\nO 9I C ^ o 1 2 ~59\nO 9I C ^ o 2 1NE ~bb 2 ~59\nO 9I C ^ o 2 1NE ~bb 2 ~59\nO 9I C ^ o 2 1NE ~bb 2 ~59\nT 5k P = 1Hs 1 5l 2 nH 5l C ^ a a 1LQ ~59 1L2 pi 1Qo pj 1Rn pk eD pl 1Ro pm 1OO pn 1L3 po 1M0 pp 2 ~7d o 1 2 ~7d\nO 9I C ^ o 2 1NE ~bb 2 ~59\nO 9I C ^ o 2 1NE ~bb 2 ~59\nO 9I C ^ o 2 1NE ~bb 2 ~59\nT 5k P 1Rp 6I 0 5l 2 nL 5l C o 50 a 9 1KX pa 1L2 pb 1Rq pc 1Rr pd 1Rs pe 1Ox pf sz pg eD ph 2 ~7d o 1 2 ~7d\nT 5k P 1Rt 6J 0 5l 2 nM 5l C o 50 a b 1KX p0 1L2 p1 1Qo p2 eD p3 1OO p4 1Ru p5 1Rv p6 1Rw p7 1Rx p8 Nh p9 2 ~7d o 1 2 ~7d\nO 9I C ^ o 3 1NE ~bb 2 ~59 1Nr ~9J\nO oA C q pA 1dt 1dk S ~oB o 1 1LQ ~7d\nT 5k P = 1Hz 1 5l 2 nP 5l C ^ a g 1LQ ~59 2 ~59 1L2 om 1Ry on 1Rz oo 1RA op 1Rq oq 1RB or 1RC os 1Rr ot 1RD ou 1Rs ov 1Ox ow sz ox 1L3 oy 1M0 oz\nO 9I C ^\nO 9I C ^\nT 5k P = 6H 1 5l 2 nS 5l C q 1H6 - 6H a y 1LQ ~59 2 ~59 1Rd ~7d 1Rf ~7d 1gA ~7d 1Re ~7d 1L2 nU 1KY nV 1Ra nW wg nX 1Rb nY 1L9 nZ 1Mf o0 11d o1 11e o2 11c o3 1Nk o4 1Nm o5 1Nl o6 1RE o7 12r o8 Kh o9 1H5 oa 1do ob 1H4 oc 1Nj od 1NF oe pW of 1NI og 1NJ oh pj oi 1R9 oj 1L3 ok 1M0 ol\nO 7c C ^ S g\nO 9I C ^ o 1 1NE ~bb\nO 9I C ^\nO 9I C ^ o 1 2 ~59\nO 9I C ^ o 1 2 ~59\nO 9I C ^\nO 9I C ^\nO 9I C ^\nO 9I C ^\nO 9I C ^\nO 9I C ^\nO 9I C ^ o 1 2 ~59\nO 9I C ^ o 1 2 ~59\nO 9I C ^ o 1 2 ~59\nO 9I C ^\nO 9I C ^ o 1 2 ~59\nO 9I C ^ o 2 1NE ~bb 2 ~59\nO 9I C ^ o 2 1NE ~bb 2 ~59\nO 9I C ^ o 2 1NE ~bb 2 ~59\nO 9I C ^ o 2 1NE ~bb 2 ~59\nO 9I C ^ o 1 2 ~59\nO 9I C ^ o 2 1NE ~bb 2 ~59\nO 9I C ^ o 1 2 ~59\nO 9I C ^ o 1 2 ~59\nO 9I C ^ o 1 2 ~59\nO 9I C ^ o 2 1NE ~bb 2 ~59\nO 9I C ^ o 1 2 ~59\nO 6l D ^\nO 6l D ^\nO 9I C ^ o 1 1Nr ~9J\nO 9I C ^ o 1 1NE ~bb\nO 9I C ^\nO 9I C ^ o 1 1NE ~bb\nO 9I C ^\nO 9I C ^ o 1 1NE ~bb\nO 9I C ^\nO 9I C ^\nO 9I C ^ o 1 1NE ~bb\nO 9I C ^\nO 9I C ^\nO 9I C ^\nO 6l D ^\nO 6l D ^\nT 5k P = 1RF 0 7c 3 oA 7c 5l C q oV - 1RF a 1 2 ~7d o 1 2 ~7d\nT 5k P 1RG 1dt 1 5l 2 oB 5l C ^ a q 1KY oC 1L5 oD 10J oE 10K oF 10L oG 10M oH 10O oI 10N oJ 1dk oK 1dl oL 1dm oM ce oN 1dn oO 1do oP 10k oQ 1dp oR Ts oS 1Rb oT 1Rc oU 1Nq oV 2t oW c1 oX 1RH oY 1RI oZ 2 ~59 1LQ ~59\nO 6R C d D ^\nO 6R C d D ^\nO 6R C d D ^\nO 6R C d D ^\nO 6R C d D ^\nO 6R C d D ^\nO 6R C d D ^\nO 6R C d D ^\nO 6G C d D ^ Y oA\nO 6G C d D ^ Y oA\nO 6G C d D ^ Y oA\nO 6G C d D ^ Y oA\nO 6G C d D ^ Y oA\nO 6G C d D ^ Y 7c\nO 6G C d D ^ Y 7c\nO 6G C d D ^ Y oA\nO 6G C d D ^ Y oA o 1 2 ~7d\nO 6G C d D ^ Y 7c o 1 2 ~7d\nO 6G C d D ^ Y 7c o 1 2 ~7d\nO 72 C d D ^ Y 7c\nO 6v D ^ Z k ~59 o 1 2 ~59\nO 6v D ^ Z k ~5j o 1 2 ~59\nO 6v D ^ Z k ~5j o 1 2 ~59\nO 6l D ^ Z k ~9J\nO 7c C b S nM o 1 1LQ ~7d\nO 6R C d D ^\nO 6G C d D ^ o 1 2 ~7d\nO 6G C d D ^ o 1 2 ~7d\nO 6G C d D ^ o 1 2 ~7d\nO 6G C d D ^ o 1 2 ~7d\nO 6G C d D ^ o 1 2 ~7d\nO 6v D ^\nO 6v D ^\nO 6l D ^ o 1 2 ~7d\nO 7c C b S nL o 1 1LQ ~7d\nO 6R C d D ^\nO 6G C d D ^ o 1 2 ~7d\nO 6G C d D ^ o 1 2 ~7d\nO 6G C d D ^ o 1 2 ~7d\nO 6G C d D ^ o 1 2 ~7d\nO 6G C d D ^ o 1 2 ~7d\nO 6G C d D ^ o 1 2 ~7d\nO 9I C ^ o 2 1NE ~bb 1Nr ~9J\nO 9I C ^ o 1 2 ~59\nO 9I C ^\nO 9I C ^ o 1 2 ~59\nO 9I C ^ o 1 2 ~59\nO 9I C ^\nO 6l D ^\nO 6l D ^\nO 9I C ^\nO 9I C ^\nO 9I C ^\nO 9I C ^\nO 9I C ^\nO 7c C b S ns o 1 1LQ ~7d\nO 6R C d D ^\nO 6R C d D ^\nO 6R C d D ^\nO 6R C d D ^\nO 6R C d D ^\nO 6R C d D ^\nO 6R C d D ^\nO 6R C d D ^\nO 6R C d D ^\nO 6R C d D ^\nO 6R C d D ^\nO 6R C d D ^\nO 6R C d D ^\nO 6R C d D ^\nO 6R C d D ^\nO 6R C d D ^\nO 6R C d D ^\nO 6R C d D ^\nO 6R C d D ^\nO 6R C d D ^\nO 6R C d D ^\nO 6R C d D ^\nO 6R C d D ^\nO 6G C d D ^ Y 7c o 1 1L4 ~7d\nO 6G C d D ^ Y 7c o 1 1L4 ~7d\nO 6G C d D ^ Y 7c o 1 1L4 ~7d\nO 6G C d D ^ Y 7c o 1 1L4 ~7d\nO 6G C d D ^ Y 7c o 1 1L4 ~7d\nO 6G C d D ^ Y 7c o 1 1L4 ~7d\nO 6G C d D ^ Y 7c o 1 1L4 ~7d\nO 6G C d D ^ Y 7c o 1 1L4 ~7d\nO 6G C d D ^ Y 7c o 1 1L4 ~7d\nO 6G C d D ^ Y 7c o 1 1L4 ~7d\nO 6G C d D ^ Y 7c\nO 6G C d D ^ Y 7c\nO 6G C d D ^ Y 7c o 1 1L4 ~7d\nO 6G C d D ^ Y 7c o 1 1L4 ~7d\nO 6G C d D ^ Y 7c o 1 1L4 ~7d\nO 6G C d D ^ Y 7c o 1 1L4 ~7d\nO 6G C d D ^ Y 7c o 1 1L4 ~7d\nO 6G C d D ^ Y 7c o 1 1L4 ~7d\nO 6G C d D ^ Y 7c o 1 1L4 ~7d\nO 6G C d D ^ Y 7c o 1 1L4 ~7d\nO 72 C d D ^ Y 7c\nO 9I C q 1H6 - 1Hb\nO 9I C ^ o 1 1NE ~bb\nO 9I C ^ o 1 2 ~59\nO 9I C ^ o 1 2 ~59\nO 9I C ^ o 2 1NE ~bb 2 ~59\nO 9I C ^ o 2 1NE ~bb 2 ~59\nO 9I C ^ o 2 1NE ~bb 2 ~59\nO 9I C ^ o 2 1NE ~bb 2 ~59\nO 9I C ^ o 2 1NE ~bb 2 ~59\nO 9I C ^ o 2 1NE ~bb 2 ~59\nO 9I C ^ o 3 1NE ~bb 2 ~59 1Nr ~9J\nO 9I C ^\nO 6l D ^\nO 6l D ^\nO 9I C ^ o 1 1NE ~bb\nO 9I C ^\nO 9I C ^\nO 9I C ^\nO 9I C ^\nO 9I C ^\nO 9I C ^\nO 9I C ^\nO 9I C ^\nO 6l D ^\nO 6l D ^\nO 7c C b S nj o 1 1LQ ~7d\nO 6R C d D ^\nO 6R C d D ^\nO 6R C d D ^\nO 6R C d D ^\nO 6R C d D ^\nO 6R C d D ^\nO 6R C d D ^\nO 6G C d D ^ o 1 2 ~7d\nO 6G C d D ^ o 1 2 ~7d\nO 6G C d D ^ o 1 2 ~7d\nO 6G C d D ^ o 1 2 ~7d\nO 6G C d D ^ o 1 2 ~7d\nO 6G C d D ^ o 1 2 ~7d\nO 6G C d D ^ o 1 2 ~7d\nO 6G C d D ^ o 1 2 ~7d\nO 6G C d D ^ o 1 2 ~7d\nO 6G C d D ^ o 1 2 ~7d\nO 6G C d D ^ o 1 2 ~7d\nO 6G C d D ^ o 1 2 ~7d\nO 6G C d D ^ o 1 2 ~7d\nO 6G C d D ^ o 1 2 ~7d\nO 6G C d D ^ o 1 2 ~7d\nO 6G C d D ^ o 1 2 ~7d\nO 6G C d D ^ o 1 2 ~7d\nO 6G C d D ^ o 1 2 ~7d\nO 6G C d D ^ o 1 2 ~7d\nO 6G C d D ^ o 1 2 ~7d\nO 6G C d D ^ o 1 2 ~7d\nO 6l D ^\nO 6l D ^\nO 6l D ^\nO 6l D ^\nT 5k P = qo 0 8r 4 ra 8r 8s 5l C ^ a b 1L6 rc 1L2 rd 1Oi re Ik rf Il rg 1RJ rh 1gA ri 1RK rj 1RL rk 1RM rl 2 ~59\nO 6l D ^\nO 6R C d D ^\nO 6R C d D ^\nO 6v D ^ o 1 2 ~59\nO 6v D ^ o 1 2 ~59\nO 6v D ^ o 1 2 ~59\nO 6v D ^ o 1 2 ~59\nO 6v D ^ o 1 2 ~59\nO 6v D ^ o 1 2 ~59\nO 6v D ^ o 1 2 ~59\nO 6v D ^ o 1 2 ~59\nO kA a 2 11W ~59 NL ~59\nO 8N a 9 11W ~59 1M1 rm 1M2 ~59 1M3 ~7d 1M4 ~7d 1M5 ~8O 1M6 ~8P 1M7 ~59 1M8 ~8P\nO 9I C ^ o 1 1NE ~bb\nO 9I C ^\nO 9I C ^\nO 9I C ^\nO 9I C ^\nO 9I C ^\nO 9I C ^\nO 9I C ^\nO 9I C ^\nO 9I C ^\nT 5k P = 1H3 1 5l 2 ry 5l C ^ a 6 1LQ ~59 1RN ~7d 1L2 rD 1L3 rE 1M0 rF 2 ~7d o 1 2 ~7d\nO 9I C ^ o 1 1NE ~bb\nO 9I C ^ o 1 1NE ~bb\nO 9I C ^ o 1 1NE ~bb\nO 9I C ^ o 1 1NE ~bb\nO 9I C ^\nO 6l D ^\nO 6l D ^\nO kA a 2 11W ~59 NL ~59\nO 8N a 9 11W ~59 1M1 rG 1M2 ~59 1M3 ~7d 1M4 ~8O 1M5 ~8O 1M6 ~8P 1M7 ~59 1M8 ~8P\nO kA a 2 11W ~59 NL ~59\nO 8N a 9 11W ~59 1M1 rI 1M2 ~59 1M3 ~7d 1M4 ~7d 1M5 ~8O 1M6 ~8P 1M7 ~59 1M8 ~8P\nT 5k P = 1GH 1 5l 2 rK 5l C ^ a n 1LQ ~59 2 ~59 1RO ~5j 1RP ~8P 1RQ ~8P 1RR ~8P 1RS ~8P 1RT ~8P 1RU ~8P 1RV ~8P 1RW ~8P 1RX ~8P LL ~8P 1RY ~8P 1RZ ~8P 1S0 ~8P 1S1 ~8P 1S2 ~8P 1S3 ~8P 1S4 ~7d pM ~7d 1L3 sS 1M0 sT\nT 5k P = 1GI 1 5l 2 rL 5l C ^ a s 1LQ ~59 1S5 ~7d 1S4 ~7d pM ~7d 1S6 ~5j 1S7 ~5j 1S8 ~5j 1S9 ~5j 1Sa ~bb 1L2 sB 1Sb sC 1Sc sD 1Sd sE 1Se sF 1Sf sG 1Sg sH 1Ql sI 1Sh sJ 1Si sK 1Sj ~9J 1Qk sL 1Sk sM mT sN 1Sl sO 1Sm sP 1L3 sQ 1M0 sR 2 ~7d o 1 2 ~7d\nO 9I C ^\nT 5k P = 1GK 1 5l 2 rN 5l C ^ a 8 1LQ ~59 1On ~bb 1R3 sw 1Sn sx 1So sy 1Sp sz 1Sq sA 2 ~7d o 1 2 ~7d\nT 5k P = 1GL 1 5l 2 rO 5l C ^ a p 1LQ ~59 1On ~bb 1L2 sa 1Sr sb 1Ss sc 1St sd 1Su se 1Sv sf 1Sw sg 1Sx sh 1Sy si 1Sz sj 1SA sk 1SB sl 1SC sm 1SD sn 1SE so 1SF sp 1SG sq 1SH sr 1SI ss 1SJ st 1SK su 1SL sv 2 ~7d o 1 2 ~7d\nT 5k P = 1GM 1 5l 2 rP 5l C ^ a c 1LQ ~59 2 ~59 1SM ~5j 1SN ~5j 1SO ~5j 1SP ~5j 1SQ ~5j 1SR s5 1SS s6 1ST s7 1L3 s8 1M0 s9\nT 5k P = 1G9 1 5l 2 rQ 5l C o 4X a b 1LQ ~59 2 ~59 1SU ~8P 1SV rX 1SW rY 141 rZ d2 s0 1SX s1 1SY s2 1L3 s3 1M0 s4\nT 5k P = 1G8 1 5l 2 rR 5l C o 4X a 9 1LQ ~59 1SZ ~5j 1T0 ~5j 1T1 rS 1T2 rT 1T3 rU 1L3 rV 1M0 rW 2 ~7d o 1 2 ~7d\nO 9I C ^\nO 9I C ^\nO 9I C ^\nO 6l D ^ Z k ~9J\nO 6l D ^ Z k ~7d\nO 9I C ^\nO 9I C ^\nO 9I C ^\nO 9I C ^\nO 9I C ^\nO 9I C ^\nO 6l D ^\nO 6l D ^\nO 9I C ^\nO 9I C ^\nO 9I C ^\nO 6l D ^\nO 6l D ^\nO 9I C ^\nO 9I C ^\nO 9I C ^\nO 9I C ^\nO 9I C ^\nO 9I C ^\nO 9I C ^\nO 9I C ^\nO 9I C ^\nO 9I C ^\nO 9I C ^\nO 9I C ^\nO 9I C ^\nO 9I C ^\nO 9I C ^\nO 6v D ^\nO 6v D ^\nO 6v D ^\nO 6v D ^\nO 6v D ^\nO 6v D ^\nO 6v D ^\nO 9I C ^\nO 9I C ^\nO 9I C ^\nO 9I C ^\nO 6v D ^\nO 9I C ^\nO 9I C ^\nO 9I C ^\nO 9I C ^\nO 9I C ^\nO 9I C ^\nO 9I C ^\nO 9I C ^\nO 9I C ^\nO 9I C ^\nO 9I C ^\nO 9I C ^\nO 9I C ^\nO 9I C ^\nO 9I C ^\nO 6l D ^\nO 6l D ^\nO 6l D ^\nO 6l D ^\nO kA a 2 11W ~59 NL ~59\nO 8N a 9 11W ~59 1M1 sU 1M2 ~59 1M3 ~7d 1M4 ~7d 1M5 ~8O 1M6 ~8P 1M7 ~59 1M8 ~8P\nT 5k P = 1G4 1 8O 3 sW 8O 5l C ^ a 8 1LQ ~59 1On ~bb 1T4 yj 1T5 yk 1T6 yl 1T7 ym 1N8 yn 2 ~7d o 1 2 ~7d\nT 5k P = 1G5 1 bb 3 sX bb 5l C ^ a 9 1LQ ~59 1On ~bb 10R yd 1Ma ye 1T4 yf 1T5 yg 1T6 yh 1T7 yi 2 ~7d o 1 2 ~7d\nO 9I C ^\nT 5k P = 1kF 1 ty 3 sZ ty 5l C ^ a A 1LQ ~59 1T8 ~7d 1T9 ~7d 1Ta ~7d 1Tb ~7d 1Tc ~7d 1qU ~7d 1Mf xI 1Td xJ 1Te xK 1Tf xL 1Tg xM 1Th xN 1Ti xO 1Tj xP 1Tk xQ 1Tl xR 1Tm xS UA xT 1Tn xU 1To xV 1Tp xW 1Tq xX 1Tr xY 1Ts xZ 1Tt y0 1Tu y1 12q y2 1P8 y3 1P9 y4 1L3 y5 1M0 y6 2 ~7d 1Tv y7 1Tw y8 1Tx y9 o 1 2 ~7d\nO 9I C ^\nO 9I C ^\nO 9I C ^ o 1 2 ~59\nO 9I C ^\nO 9I C ^\nT 5k P = 1Gg 1 sZ 4 t5 sZ ty 5l C ^ a 9 1LQ ~59 1Ty ~5j 1Tz ~59 1TA ~7d 1TB ~7d 1T9 ~7d 1TC ~bb 1L2 xH 2 ~7d o 1 2 ~7d\nT 5k P = 1Gh 1 sZ 4 t6 sZ ty 5l C ^ a A 1LQ ~59 1On ~bb 1Ty ~5j 1TB ~7d 1TD ~8P 1TE ~8P 1TC ~bb 1L2 xe 1Tp xf 1TF xg 1TG xh 1TH xi 1Tz xj 11W xj 1TI xk 1TJ xl 1TA xm 1TK xm 1TL xn 1TM xo 1qU xp 12q xq 1TN xr 1TO xs 1TP xt 1TQ xu 1TR xv 1TS xw 1TT xx 1T8 xy 1Ta xz 1TU xA 2 ~7d 1TV xB 1Tx xC 1TW xD o 1 2 ~7d\nT 5k P = 1Gi 1 5l 2 t7 5l C ^ a A 1LQ ~59 2 ~59 1On ~bb 1L2 wI 1T5 wJ 1T4 wK 1NJ wL 1TX wM 11b wN 1NI wO 1TY wP 1NK wQ 1NF wR 1L9 wJ Ie wS 10L wT 10N wU 10O wV 10K wW 10J wX 11d wY 11e wZ 1TZ x0 1U0 x1 1U1 x2 1U2 x3 1U3 x4 1U4 x5 11c x6 1MT x7 1N8 x8 1U5 x9 1U6 xa 1U7 xb 1L5 ~7d 1T7 xc\nT 5k P = 1Gk 1 5l 2 t8 5l C ^ a 9 1LQ ~59 1On ~bb 1L2 wC 1KY wD 1TG wE 1U8 wF 11W wG 1U9 wH 2 ~7d o 1 2 ~7d\nT 5k P = 6H 1 sZ 4 t9 sZ ty 5l C ^ a O 1LQ ~59 1On ~bb 1Ty ~5j 1TA ~7d 1TW ~t8 1Ua ~5j 1TC ~bb 1L2 vW 1Ub vX 1Tp vY 1Uc vZ 12q w0 1Ud w1 1Ue w2 1Uf w3 1Ug w4 1Uh w5 1Ui w6 1Uj w7 1Uk w7 1Ul w8 1Um w9 1Un wa 1Uo wa 1Up wb 1Uq wc 1Ur wd 1Us we 1KY wf 1Ut wg 1Uu wh 1Uv wi 1Uw wj 1Ux wk 1Uy wl 1U5 wm 1U6 wn 1TP wo 1TT wp 1T8 wq 1Tb wr 1Tz ws 1Ta wt 1T9 wu 1qU wv 1Tc ww 1Uz wx 2 ~7d 1TB wy 1Tx wz o 1 2 ~7d\nO 9I C ^\nT 5k P = 1Gn 1 5l 2 tb 5l C ^ a f 1LQ ~59 2 ~59 1On ~bb 1TB ~7d 1TT ~sX 1Tv ~7d 1Tw ~7d 1Th vO 1Ti vP 1Tk vQ 1Tf vR 1Tj vS 1Tm vT UA vU 1Tl vV\nT 5k P = 1Go 1 tb 5 tc tb sZ ty 5l C ^ a g 1LQ ~59 1Ty ~5j 1On ~bb 1L2 vC 1UA vD 1UB vE 1TA vF 1UC vG 1UD vH 1Tz vI 1Ut vJ 1Rq vK 1Rx vL 1L3 vM 1M0 vN 2 ~7d o 1 2 ~7d\nT 5k P = 1Gp 1 tb 5 td tb sZ ty 5l C ^ a o 1LQ ~59 1On ~bb 1L2 vi 1T5 vj 1L9 vj 1Ko vk 1UE vl 1Rq vm 1TA vm 1KY vn 1UF vo 1UG vp 1UH vq 1UI vr 1UJ vs 1UK vt 1Tb vu 1Ta vv 1T9 vw 1Tc vx 1L3 vy 1M0 vz 2 ~7d 1T7 vA o 1 2 ~7d\nT 5k P = O8 1 td 6 te td tb sZ ty 5l C ^ a d 1LQ ~59 1On ~bb 1Ty ~5j 1Tz ~59 1TB ~7d 1UL v9 1Ut va 1UM vb 1UN vc 1UO vd 2 ~7d 1UP ve 1UQ vf o 1 2 ~7d\nO 9I C ^\nO 9I C ^\nT 5k P = 1yb 1 td 6 th td tb sZ ty 5l C ^ a 6 1LQ ~59 1Ty ~5j 1Tz ~59 1L2 v7 1Ut v8 2 ~7d o 1 2 ~7d\nT 5k P = 1Gs 1 te 7 ti te td tb sZ ty 5l C ^ a 6 1LQ ~59 1On ~bb 1Ty ~5j 1Tz ~59 1Ut v6 2 ~7d o 1 2 ~7d\nT 5k P = 1Gt 1 5l 2 tj 5l C ^ a i 1LQ ~59 1On ~bb 1L2 uQ 1L9 uR 1T5 uS 1TZ uT 1U0 uU 11d uV 1T4 uW 1U1 uX 1U2 uY 1U3 uZ 1U4 v0 1MT v1 1N8 v2 1UR v3 2 ~7d 1T7 v4 o 1 2 ~7d\nT 5k P = 1Gu 1 5l 2 tk 5l C ^ a 8 1LQ ~59 2 ~59 1On ~bb 1US uL 1Sz uM 1SB uN 1SJ uO 1SL uP\nT 5k P = 1Gv 1 tk 6 tl tk tb sZ ty 5l C ^ a e 1LQ ~59 1Ty ~5j 1TA ~7d 11W ~7d 1SJ ~7d 1SL ~7d 1UT ~7d 1L2 uF 1UU uG 1Tn uH 1Ut uI 1L3 uJ 1M0 uK 2 ~7d o 1 2 ~7d\nT 5k P = 1Gw 1 tk 5 tm tk sZ ty 5l C ^ a i 1LQ ~59 1TB ~7d 1Ty ~5j 1TA ~7d 1UV ~7d 1SI ~7d Nh ~7d 1L2 uv 1UW uw 1Sx ux 1UX uy 1Tk uz 1Tj uA 1Tm uB 1Tl uC 1L3 uD 1M0 uE 2 ~7d o 1 2 ~7d\nT 5k P = 1Gx 1 tk 6 tn tk tb sZ ty 5l C ^ a 7 1LQ ~59 1Ty ~5j 1TA ~7d 1L2 us 1L3 ut 1M0 uu 2 ~7d o 1 2 ~7d\nT 5k P = 1Gy 1 rR 3 to rR 5l C ^ a 8 1LQ ~59 tA ~8O 1UY un 1UZ uo 1V0 up 1Tr uq 1V1 ur 2 ~7d o 1 2 ~7d\nT 5k P = 1Gz 1 5l 2 tp 5l C ^ a d 1LQ ~59 2 ~59 1On ~bb 1L2 ud 1V2 ue 1V3 uf 1V4 ug 1V5 uh 1TV ui 1V6 uj 1MT uk 1N8 ul 1Uz um\nO 9I C ^\nT 5k P = 1GB 1 sZ 5 tr sZ ty rQ 5l C ^ a X 1LQ ~59 1On ~bb 1TC ~bb 1qM ~to 1Ty ~5j 1Tz ~59 1TA ~7d 1TB ~7d 1T9 ~7d 1Tc ~7d 1Tb ~7d 1UV ~7d 1SI ~7d 1V7 ~7d Nh ~7d 1V8 ~8P 1S4 ~7d 1V9 ~7d 1Va ~5j 1L2 tz 1Vb tA 1UW tB 1Vc tC 1Vd tD 1Sx tE 1Sd tF 1Ve tG 1Vf tH 1UX tI 1Tk tJ 1Tm tK 1Vg tL 12q tM 1Tn tN 1Vh tO 1Vi tP 1Vj tQ 1Vk tR 1Vl tS 1Vm tT 1Vn tU 1Vo tV 1Vp tW 1Vq tX 1Vr tY 1Vs tZ 1Ur u0 1Us u1 1To u2 1Vt u3 1Ut u4 1Vu u5 1Vv u6 1Vw u7 1Vx u8 1TT u9 1Vy ua 2 ~7d 1Vz ub o 1 2 ~7d\nO 9I C ^ o 1 2 ~59\nO 9I C ^\nO 9I C ^\nO 9I C ^ o 2 1NE ~bb 2 ~59\nO 9I C ^ o 2 1NE ~bb 2 ~59\nO 9I C ^ o 1 1NE ~bb\nT 5k P = 1kF 1 5l 2 ty 5l C ^ a f 1LQ ~59 2 ~59 1On ~bb 1VA ~5j 1VB ~5j 1VC ~5j 1VD ~5j 1VE ~5j 1VF ~5j 1VG ~5j 1VH ~5j 1VI ~5j 1VJ ~5j 1VK ~5j 1VL ~5j\nO 9I C ^\nO 9I C ^\nO 9I C ^\nO 9I C ^\nO 9I C ^\nO 9I C ^\nO 9I C ^\nO 9I C ^\nO 9I C ^\nO 9I C ^\nO 9I C ^\nO 9I C ^\nO 9I C ^\nO 9I C ^\nO 9I C ^\nO 9I C ^\nO 9I C ^\nO 9I C ^\nO 9I C ^\nO 9I C ^\nO 9I C ^\nO 9I C ^\nO 9I C ^\nO 9I C ^\nO 9I C ^\nO 9I C ^\nO 9I C ^\nO 9I C ^\nO 9I C ^\nO 9I C ^\nO 9I C ^\nO 9I C ^ o 1 1NE ~bb\nO 9I C ^\nO 6v D ^\nO 6v D ^\nO 6v D ^\nO 6v D ^\nO 6v D ^\nO 9F o 2 1Ns tL 1Nt uc\nO 9I C q 1G2 1VM pW o 1 1NE ~bb\nO 9I C ^\nO 9I C ^\nO 9I C ^\nO 9I C ^\nO 9I C ^ o 1 2 ~59\nO 9I C ^ o 1 2 ~59\nO 9I C ^ o 1 2 ~59\nO 9I C ^\nO 9I C ^\nO 6v D ^\nO 9I C ^\nO 9I C ^\nO 9I C ^\nO 9I C ^\nO 9I C ^\nO 9I C ^\nO 6l D ^\nO 6l D ^\nO 9I C ^\nO 9I C ^\nO 9I C ^\nO 9I C ^\nO 9I C ^\nO 9I C ^\nO 9I C ^\nO 9I C ^\nO 6l D ^\nO 6l D ^\nO 9I C ^\nO 9I C ^\nO 9I C ^\nO 9I C ^ o 1 1NE ~bb\nO 6l D ^\nO 6l D ^\nO 9I C ^\nO 9I C ^\nO 9I C ^\nO 6v D ^\nO 6v D ^\nO 9I C ^ o 1 1NE ~bb\nO 9I C ^\nO 9I C ^\nO 9I C ^\nO 9I C ^\nO 9I C ^\nO 9I C ^\nO 9I C ^\nO 9I C ^\nO 9I C ^\nO 9I C ^\nO 9I C ^\nO 9I C ^\nO 6v D ^\nO 9F o 2 1Ns uS 1Nt v5\nO 9I C q 1G2 1VM pW o 1 1NE ~bb\nO 9I C ^ o 1 1NE ~bb\nO 9I C ^\nO 9I C ^ o 1 1NE ~bb\nO 9I C ^\nO 9I C ^ o 1 1NE ~bb\nO 9I C ^\nO 9I C ^\nO 9I C ^\nO 9F o 2 1Ns vd 1Nt vh\nO 9F o 2 1Ns vb 1Nt vg\nO 9I C q 1G2 1VM pW o 1 1NE ~bb\nO 9I C q 1G2 1VM pW o 1 1NE ~bb\nO 9I C ^\nO 9I C ^\nO 9I C ^\nO 9I C ^\nO 9F o 3 2 ~7d 1Ns vk 1Nt vl\nO 9I C ^\nO 9I C ^\nO 9I C ^\nO 9I C ^\nO 9I C ^\nO 9I C ^\nO 6v D ^\nO 6v D ^\nO 6v D ^\nO 6v D ^\nO 6v D ^\nO 6l D ^\nO 6l D ^\nO 9F o 2 1Ns vj 1Nt vB\nO 9I C q 1G2 1VM pW o 1 1NE ~bb\nO 9I C ^\nO 9I C ^\nO 9I C ^\nO 9F o 3 2 ~7d 1Ns vD 1Nt vE\nO 9I C ^\nO 9I C ^\nO 9F o 3 2 ~7d 1Ns vG 1Nt vH\nO 9I C ^ o 1 1NE ~bb\nO 6v D ^\nO 6v D ^\nO 6l D ^\nO 6l D ^\nO 9I C ^\nO 9I C ^\nO 9I C ^\nO 9I C ^\nO 9I C ^\nO 9I C ^\nO 9I C ^\nO 9I C ^\nO 9I C ^ o 1 1NE ~bb\nO 9I C ^\nO 9I C ^\nO 9I C ^\nO 9I C ^\nO 9I C ^ o 1 2 ~59\nO 9I C ^\nO 9I C ^\nO 9I C ^\nO 9I C ^\nO 9I C ^\nO 9I C ^\nO 9I C ^\nO 9I C ^\nO 9I C ^\nO 9I C ^ o 1 2 ~59\nO 9I C ^\nO 9I C ^ o 1 2 ~59\nO 9I C ^\nO 9I C ^\nO 9I C ^ o 2 1NE ~bb 2 ~59\nO 9I C ^\nO 9I C ^\nO 9I C ^\nO 9I C ^\nO 9I C ^\nO 6v D ^\nO 6v D ^\nO 6v D ^\nO 6v D ^\nO 6v D ^\nO 6v D ^\nO 6v D ^\nO 6v D ^\nO 6v D ^\nO 6v D ^\nO 6v D ^\nO 6v D ^\nO 9F o 2 1Ns wh 1Nt wB\nO 9F o 2 1Ns vY 1Nt wA\nO 9I C q 1G2 1VM pW o 1 1NE ~bb\nO 9I C q 1G2 1VM pW o 1 1NE ~bb\nO 9I C ^\nO 9I C ^\nO 9I C ^\nO 9I C ^\nO 6v D ^ Z k ~7d\nO 6v D ^ Z k ~7d\nO 9I C ^\nO 9I C ^\nO 9I C ^\nO 9I C ^\nO 9I C ^\nO 9I C ^\nO 9I C ^\nO 9I C ^\nO 9I C ^\nO 9I C ^ o 1 1NE ~bb\nO 9I C ^\nO 9I C ^\nO 9I C ^\nO 9I C ^\nO 9I C ^\nO 9I C ^\nO 9I C ^\nO 9I C ^\nO 9I C ^\nO 9I C ^\nO 9I C ^\nO 9I C ^\nO 9I C ^\nO 9I C ^\nO 9I C ^\nO 9I C ^\nO 9I C ^\nO 6v D ^\nO 6v D ^\nO 6v D ^\nO 9F o 2 1Ns wJ 1Nt xd\nO 9I C q 1G2 1VM pW o 1 1NE ~bb\nO 9I C ^ o 1 1NE ~bb\nO 9I C ^\nO 9I C ^\nO 9I C ^\nO 9I C ^\nO 9F o 3 2 ~7d 1Ns xh 1Nt xi\nO 9I C ^\nO 9I C ^\nO 9F o 3 2 ~7d 1Ns xk 1Nt xl\nO 9I C ^\nO 9I C ^\nO 9F o 3 2 ~7d 1Ns xn 1Nt xo\nO 9I C ^\nO 9I C ^\nO 9I C ^\nO 6v D ^\nO 6v D ^\nO 6v D ^\nO 6v D ^\nO 6v D ^\nO 6v D ^\nO 6v D ^\nO 6v D ^\nO 9F o 2 1Ns xr 1Nt xG\nO 9F o 2 1Ns xf 1Nt xF\nO 9F o 2 1Ns xs 1Nt xE\nO 9I C q 1G2 1VM pW o 1 1NE ~bb\nO 9I C q 1G2 1VM pW o 1 1NE ~bb\nO 9I C q 1G2 1VM pW o 1 1NE ~bb\nO 9I C ^\nO 9I C ^\nO 9I C ^ o 1 1NE ~bb\nO 9I C ^ o 1 1NE ~bb\nO 9I C ^\nO 9I C ^\nO 9I C ^\nO 9I C ^\nO 9I C ^\nO 9I C ^\nO 9I C ^\nO 9I C ^\nO 9I C ^\nO 9I C ^\nO 9I C ^\nO 9I C ^\nO 9I C ^\nO 9I C ^\nO 9I C ^\nO 9I C ^\nO 9I C ^\nO 9I C ^\nO 9I C ^\nO 9I C ^\nO 6l D ^\nO 6l D ^\nO 9F o 2 1Ns xN 1Nt yc\nO 9F o 2 1Ns xO 1Nt yb\nO 9F o 2 1Ns xW 1Nt ya\nO 9I C q 1G2 1VM pW o 1 1NE ~bb\nO 9I C q 1G2 1VM pW o 1 1NE ~bb\nO 9I C q 1G2 1VM pW o 1 1NE ~bb\nO 9I C ^\nO 9I C ^\nO 9I C ^\nO 9I C ^\nO 9I C ^\nO 9F Z k ~5j o 2 1Ns yg 1Nt yh\nO 9I C ^\nO 9I C ^\nO 9I C ^\nO 9F o 2 1Ns yk 1Nt yl\nO 9I C ^\nO kA a 2 11W ~59 NL ~59\nO 8N a 9 11W ~59 1M1 yo 1M2 ~59 1M3 ~7d 1M4 ~7d 1M5 ~8O 1M6 ~8P 1M7 ~59 1M8 ~8P\nO kA a 2 11W ~59 NL ~59\nO 8N a 9 11W ~59 1M1 yq 1M2 ~59 1M3 ~7d 1M4 ~7d 1M5 ~8O 1M6 ~8P 1M7 ~59 1M8 ~8P\nO 9I C o 4U o 1 2 ~59\nO 9I C ^ o 1 2 ~59\nO 9I C o 4U o 2 1NE ~bb 2 ~59\nO 9I C ^\nO kA a 2 11W ~59 NL ~59\nO 8N a 9 11W ~59 1M1 yw 1M2 ~59 1M3 ~7d 1M4 ~7d 1M5 ~8O 1M6 ~8P 1M7 ~59 1M8 ~8P\nT 5k P = 1FT 1 5l 2 yy 5l C ^ a l 1LQ ~59 2 ~59 1SM ~5j 1SN ~5j 1SO ~5j 1VN ~5j 1VO ~5j 1VP ~5j 1VQ ~5j 1VR ~5j 1VS ~5j 1VT ~5j 1VU ~5j 1VV ~5j 1VW ~5j 1VX ~5j 1VY ~5j 1VZ ~5j 1SS yz 1L3 yA 1M0 yB\nO 9I C ^\nO 6l D ^\nO 6l D ^\nO kA a 2 11W ~59 NL ~59\nO 8N a 9 11W ~59 1M1 yC 1M2 ~59 1M3 ~7d 1M4 ~8O 1M5 ~8O 1M6 ~8P 1M7 ~59 1M8 ~8P\nT 5k P = 1Fs 1 8r 4 yE 8r 8s 5l C ^ a 5 1LQ ~59 2 ~59 1L2 yY 1W0 yZ 1M0 z0\nT 5k P = 1Ft 1 yE 5 yF yE 8r 8s 5l C ^ a 3 1LQ ~59 sL ~5j 2 ~7d o 1 2 ~7d\nT 5k P = 1Fu 1 yE 5 yG yE 8r 8s 5l C ^ a 3 1LQ ~59 sL ~5j 2 ~7d o 1 2 ~7d\nT 5k P = 1Fv 1 yE 5 yH yE 8r 8s 5l C ^ a 3 1LQ ~59 sL ~5j 2 ~7d o 1 2 ~7d\nT 5k P = 1Fw 1 yE 5 yI yE 8r 8s 5l C ^ a 3 1LQ ~59 sL ~5j 2 ~7d o 1 2 ~7d\nT 5k P = 1Fx 1 yE 5 yJ yE 8r 8s 5l C ^ a 3 1LQ ~59 sL ~5j 2 ~7d o 1 2 ~7d\nT 5k P = 1Fy 1 yE 5 yK yE 8r 8s 5l C ^ a 3 1LQ ~59 sL ~5j 2 ~7d o 1 2 ~7d\nT 5k P = 1Fz 1 yE 5 yL yE 8r 8s 5l C ^ a 3 1LQ ~59 sL ~5j 2 ~7d o 1 2 ~7d\nT 5k P = 1FA 1 yE 5 yM yE 8r 8s 5l C ^ a 3 1LQ ~59 sL ~5j 2 ~7d o 1 2 ~7d\nT 5k P = 1FB 1 yE 5 yN yE 8r 8s 5l C ^ a 3 1LQ ~59 sL ~5j 2 ~7d o 1 2 ~7d\nT 5k P = 1FC 1 yE 5 yO yE 8r 8s 5l C ^ a 3 1LQ ~59 sL ~5j 2 ~7d o 1 2 ~7d\nT 5k P = 1FD 1 yE 5 yP yE 8r 8s 5l C ^ a 3 1LQ ~59 sL ~5j 2 ~7d o 1 2 ~7d\nT 5k P = 1FE 1 yE 5 yQ yE 8r 8s 5l C ^ a 3 1LQ ~59 sL ~5j 2 ~7d o 1 2 ~7d\nT 5k P = 1FF 1 yE 5 yR yE 8r 8s 5l C ^ a 3 1LQ ~59 sL ~5j 2 ~7d o 1 2 ~7d\nT 5k P = 1FG 1 yE 5 yS yE 8r 8s 5l C ^ a 3 1LQ ~59 sL ~5j 2 ~7d o 1 2 ~7d\nT 5k P = 1FH 1 yE 5 yT yE 8r 8s 5l C ^ a 3 1LQ ~59 sL ~5j 2 ~7d o 1 2 ~7d\nT 5k P = 1FI 1 yE 5 yU yE 8r 8s 5l C ^ a 3 1LQ ~59 sL ~5j 2 ~7d o 1 2 ~7d\nT 5k P = 1FJ 1 5l 2 yV 5l C ^ a 8 1LQ ~59 2 ~59 1W1 ~5j 1W2 ~5j 1W3 ~5j 1W4 ~5j 1L3 yW 1M0 yX\nO 6l D ^\nO 6l D ^\nO 9I C ^\nO 9I C ^\nO 6l D ^\nO kA a 2 11W ~59 NL ~59\nO 8N a 9 11W ~59 1M1 z1 1M2 ~59 1M3 ~7d 1M4 ~8O 1M5 ~8O 1M6 ~8P 1M7 ~59 1M8 ~8P\nO kA a 2 11W ~59 NL ~59\nO 8N a 9 11W ~59 1M1 z3 1M2 ~59 1M3 ~7d 1M4 ~7d 1M5 ~8O 1M6 ~8P 1M7 ~59 1M8 ~8P\nO 7c C ^ S M\nO 7c C ^ S M\nT 5k P 1W5 lS 0 5l 2 z7 5l C q uY - lS a e 1KX EA 1KY EB 1L5 BE 10T EC 10J ED 10K EE 10L EF 10M EG 10O EH 10N EI 1L2 EJ 1Nq EK 1W6 EL 2 ~7d o 1 2 ~7d\nO 7c C ^ S M\nT 5k P 1W7 lU 0 5l 2 z9 5l C o 4Q a 18 1KY Du 10T Dv 1L6 Dw 1KZ Dx 1L0 Dy 1L1 Dz 10J DA 10K DB 10L DC 10M DD 10O DE 10N DF 1L7 DG 1PP DH 10R DI 1Ma DJ 117 DK 1Mb DL 110 DM 1La DN 10Z DO 1L8 DP 1Mc DQ 1Md DR 115 DS 1Me DT 112 DU 114 DV 10Q DW 1Mf DX 10X DY 10Y DZ 1Mg E0 116 E1 1Mh E2 10S E3 1Mi E4 119 E5 1Mj E6 113 E7 1Mk E8 1Ml E9 1Mm Ea 11f Eb 11q Ec 11l Ed 11k Ee 11o Ef 11j Eg 11p Eh 11g Ei 11s Ej 11n Ek 10U El 1Mn Em 118 En 1Mo Eo 11i Ep 11r Eq 10V Er 111 Es 1W8 Et 11m Eu 1L9 Ev 11d Ew 11e Ex 11c Ey 11b Ez 2 ~7d 1L5 ~7d o 1 2 ~7d\nT 5k P 1W9 lT 0 5l 2 za 5l C o 4Q a 19 1KY Cn 1L6 Co 1KZ Cp 1L0 Cq 1L1 Cr 10J Cs 10K Ct 10L Cu 10M Cv 10O Cw 10N Cx 1L7 Cy 1PP Cz 10R CA 1Ma CB 117 CC 1Mb CD 110 CE 1La CF 10Z CG 1L8 CH 1Mc CI 1Md CJ 115 CK 1Me CL 112 CM 114 CN 10Q CO 1Mf CP 10X CQ 10Y CR 1Mg CS 116 CT 1Mh CU 10S CV 1Mi CW 119 CX 1Mj CY 113 CZ 1Mk D0 1Ml D1 1Mm D2 11f D3 11q D4 11l D5 11k D6 11o D7 11j D8 11p D9 11g Da 11s Db 11n Dc 10U Dd 1Mn De 118 Df 1Mo Dg 11i Dh 11r Di 10V Dj 111 Dk 1W8 Dl 11m Dm 1L9 Dn 11d Do 11e Dp 11c Dq 11b Dr 1NS Ds 1Ni Dt 2 ~7d 1L5 ~7d o 1 2 ~7d\nO 7c C ^ S M\nT 5k P = lX 1 5l 2 zc 5l C ^ a H 1LQ ~59 1L2 BP 1Wa BQ 1L7 BR 1L9 BS 11b BT 1MS BU cd BV 1Nj BW wg BX 1Nn BY 12r BZ 1Rj C0 1NL C1 11n C2 1PX C3 117 C3 1Rk C4 11q C5 1PY C6 10S C6 1Rl C7 11g C8 1Q0 C9 10K C9 10J Ca 1Q1 Cb 10N Cb 10O Cc 10L Cd 1Q2 Ce 119 Ce 1Rm Cf 11s Cg 1Q3 Ch 113 Ch 1PZ Ci 1KY Cj 1Nq Ck 1L3 Cl 1M0 Cm 2 ~7d 1L5 ~7d o 1 2 ~7d\nT 5k P = lW 1 5l 2 zd 5l C ^ a 7 1LQ ~59 1L2 BK 1P8 BL 1P9 BM 1L3 BN 1M0 BO 2 ~7d o 1 2 ~7d\nT 5k P = 1F2 1 z7 3 ze z7 5l C ^ a c 1LQ ~59 2 ~59 1On ~bb 1KX BA 10T BB 10L BC 10M BD 1L5 BE 1Wb BF 1Wc BG 1Wd BH 1M0 BI\nT hS P = 1F3 1 zL 8 zf zL zM zN zO zP zQ 5l C ^ a v 1LQ ~59 2 ~59 1L2 Bb 1Wa Bc 11d Bd 11c Be 1L9 Bf 11b Bg 1KY Bh 11e Bi wg Bj 1Rb Bj 1Rc Bk 1NF Bl 1NJ Bm 1NI Bn 1L7 Bn 1We Bo 1NK Bp 1NH Bq 1Nn Br 1NG Bs 1NL Bt 1Wf Bu 11n Bv 113 Bw 1Mk Bx 1L3 By 1M0 Bz 1MQ ~i2 1P3 ~i3\nT 5k P = 1F4 1 z7 3 zg z7 5l C ^ a 6 1LQ ~59 2 ~59 1On ~bb 1KX B7 1L2 B8 1Wg B9\nT hS P = 1F5 1 zL 8 zh zL zM zN zO zP zQ 5l C ^ a v 1LQ ~59 2 ~59 1L2 zR 1Wa zS 1Wh zT 11c zU 11d zV 1L9 zW 1KY zX 11e zY wg zZ 1Rb zZ 1Rc A0 1NF A1 11b A2 1NJ A3 1NI A4 1L7 A4 1NK A5 1Wi A6 1NH A7 1Nn A8 1NG A9 1NL Aa 11n Ab 113 Ac 1Mk Ad 1L3 Ae 1M0 Af 1MQ ~i2 1P3 ~i3\nT 5k P = 1F6 1 5l 2 zi 5l C ^ a i 1LQ ~59 2 ~59 1On ~bb SW ~9J vq ~8P 1Wj ~zj 1Wk ~8P 1Wl ~8P 1Wm zk 1L2 zl 10T zm 1PL zn 1OW zo 1Wn zp nA zq 1KY zr 1Wo zs 1Wp zt\nT 5k P 1Wq Rh 0 5l 2 zj 5l C ^ a 7 1KX zF 1KY zG 1KZ zH 1L7 zI 1PP zJ 1MS zK 2 ~59 o 1 1L4 ~59\nT 5k P 1Wm 1Wr 1 5l 2 zk 5l C ^ a 9 1LQ ~59 1On ~bb 1Nc zz nA zA 1Ws zB cc zC 1Wt zD uY zE 2 ~7d o 1 2 ~7d\nO 9I C ^\nO 9I C ^ o 2 1NE ~bb 2 ~59\nO 9I C ^ o 1 2 ~59\nO 9I C ^ o 1 2 ~59\nO 9F o 1 1Ns zy\nO 9F o 2 1Ns zw 1Nt zx\nO 9I C ^\nO b0 F zv a 5 1LQ ~59 1 ~59 1MO ~59 2 ~7d RL ~9J\nO b0 F zu a 5 1LQ ~59 1 ~59 1MO ~59 2 ~7d RL ~9J\nO 9I C q uY 1F6 1Wp\nO 9I C q uY 1F6 1Wo\nO 9I C q uY 1F6 nA o 1 2 ~59\nO 9I C q uY 1F6 nA\nO 9I C q uY 1F6 1Wn o 1 2 ~59\nO 6v D ^\nO 6v D ^\nO 6v D ^\nO 6v D ^\nO 6v D ^\nO 6v D ^\nO 7c C b S zj o 1 1LQ ~7d\nO 6R C d D ^\nO 6R C d D ^\nO 6R C d D ^\nO 6R C d D ^\nO 6G C d D ^ Y 7c o 1 1L4 ~7d\nT hS P = 4x 1 zM 7 zL zM zN zO zP zQ 5l C ^ a d 1LQ ~59 2 ~59 1On ~bb 11e B0 11c B1 1Wu ~5l 1Nn B2 1NH B3 1Nj B4 1NL B5 1NG B6 1MQ ~i2 1P3 ~i3\nT hS P = 4s 1 zN 6 zM zN zO zP zQ 5l C ^ a e 1LQ ~59 2 ~59 1On ~bb 11d AT 1NF AU 11b AV 1NI AW 1NJ AX 1NK AY 10L AZ 1Ni ~7d 1L5 ~7d 1MQ ~i2 1P3 ~i3\nT hS P = 4m 1 zO 5 zN zO zP zQ 5l C ^ a 6 1LQ ~59 1On ~bb 1MU AR 2 ~7d 1MQ ~i2 1P3 ~i3\nT hS P = 4k 1 5l 2 zO 5l C ^ a 7 1LQ ~59 1On ~bb 1L9 AO 1MU AP 2 ~7d 1MQ ~i2 1P3 ~i3\nT hS P = 4g 1 5l 2 zP 5l C ^ a 8 1LQ ~59 1On ~bb 1L7 AK 1MU AL 1Nq AM 2 ~7d 1MQ ~i2 1P3 ~i3\nT hS P = 4l 1 5l 2 zQ 5l C ^ a 8 1LQ ~59 1On ~bb 11b Ag 1MU Ah 1Nq Ai 2 ~7d 1MQ ~i2 1P3 ~i3\nO 9I C ^ o 1 1NE ~bb\nO 9I C ^\nO 9I C ^\nO 9I C ^\nO 9I C ^\nO 9I C ^\nO 9I C ^\nO 9I C ^\nO 9I C ^\nO 9I C ^\nO 9I C ^ o 1 1NE ~bb\nO 9I C ^\nO 9I C ^\nO 9I C ^\nO 9I C ^\nO 9I C ^ o 1 2 ~59\nO 9I C ^\nO 9I C ^\nO 9I C ^ o 1 1NE ~bb\nO 9I C ^ o 1 1NE ~bb\nO 9I C ^\nO 9I C ^\nO 9I C ^\nO 6l D ^ I k ~9J\nO 6l D ^ I i\nO 9I C ^ a 1 1Nz ~8P\nO b0 F AJ a 5 1LQ ~59 1 ~59 1MO ~59 2 ~7d RL ~9J\nO b0 F Aj a 4 1LQ ~59 1 ~59 1MO ~59 2 ~59\nT 5k P 1Wv 3N 0 5l 2 Aj 5l H a C o 4J a q 1KX Ak 1KY Al 1L5 Am 10T An 1KZ Ao 10J Ap 10K Aq 10L Ar 10M As 10O At 10N Au 1L7 Av 113 Aw 1Mk Ax 11d Ay 1Ww Az 1MF AA 1MG AB 1MS AC ur AD 1Wx AE 1Wy AF 1Wz AG 1WA AH 1WB AI 2 ~59\nO 7c C b S Aj o 1 1LQ ~7d\nO 6R C d D ^\nO 6R C d D ^\nO 6R C d D ^\nO 6R C d D ^\nO 6R C d D ^\nO 6R C d D ^\nO 6R C d D ^\nO 6R C d D ^\nO 6R C d D ^\nO 6R C d D ^\nO 6R C d D ^\nO 6R C d D ^\nO 6R C d D ^\nO 6R C d D ^\nO 6G C d D ^ o 2 2 ~7d 1L4 ~7d\nO 6G C d D ^ o 2 2 ~7d 1L4 ~7d\nO 6G C d D ^ o 2 2 ~7d 1L4 ~7d\nO 6G C d D ^ o 2 2 ~7d 1L4 ~7d\nO 6G C d D ^ o 2 2 ~7d 1L4 ~7d\nO 6v D ^\nO 6v D ^\nO 6v D ^\nO 6l D ^\nO 6l D ^ o 1 2 ~7d\nO 9I C q 3J 4l 1MU\nO 9I C ^ a 1 1Nz ~8P\nO b0 F AN a 5 1LQ ~59 1 ~59 1MO ~59 2 ~7d RL ~9J\nO b0 F Aj a 4 1LQ ~59 1 ~59 1MO ~59 2 ~59\nO 9I C q 3J 4g 1MU\nO 9I C ^ a 1 1Nz ~8P\nO b0 F AQ a 5 1LQ ~59 1 ~59 1MO ~59 2 ~7d RL ~9J\nO 9I C q 3J 4k 1MU\nO b0 F AS a 5 1LQ ~59 1 ~59 1MO ~59 2 ~7d RL ~9J\nO 9I C q 3J 4m 1MU\nO 9I C ^ a 1 1Nz ~8P\nO 9I C ^ o 2 1NE ~bb 2 ~59\nO 9I C ^\nO 9I C ^ o 1 2 ~59\nO 9I C ^ o 1 2 ~59\nO 9I C ^ o 1 2 ~59\nO 9I C ^\nO 9I C ^ a 1 1Nz ~8P\nO 9I C ^ a 1 1Nz ~8P\nO 9I C ^ o 2 1NE ~bb 2 ~59\nO 9I C ^ o 1 2 ~59\nO 9I C ^ o 1 2 ~59\nO 9I C ^ o 2 1NE ~bb 2 ~59\nO 9I C ^ o 2 1NE ~bb 2 ~59\nO bz C t 1NP F Ba\nO 9I C ^ o 1 1NB ~bb\nO 6v D ^\nO 9I C q uY 1F4 1KX\nO 9I C ^ o 1 1NE ~bb\nO 9I C ^ o 1 1NE ~bb\nO 9I C ^\nO 9I C ^\nO 9I C ^\nO 9I C ^\nO 9I C ^\nO 9I C ^\nO 9I C ^\nO 9I C ^\nO 9I C ^ o 1 1NE ~bb\nO 9I C ^\nO 9I C ^\nO 9I C ^ o 1 2 ~59\nO 9I C ^\nO 9I C ^\nO 9I C ^\nO 9I C ^ o 1 1NE ~bb\nO 9I C ^ o 1 1NE ~bb\nO 9I C ^ o 1 2 ~59\nO 9I C ^\nO 9I C ^\nO 9I C ^\nO 6l D ^ I k ~9J\nO 6l D ^ I i\nO bz C t 1NP F BJ\nO 9I C ^ o 1 1NB ~bb\nO 9I C ^\nO 9I C ^\nO 6R C d D ^\nO 6v D ^\nO 6v D ^\nO 6v D ^\nO 6l D ^\nO 9I C q uY 1F2 1KX o 1 1NE ~bb\nO 9I C ^\nO 9I C ^\nO 9I C ^\nO 6l D ^\nO 6l D ^\nO 9I C ^ o 1 1NE ~bb\nO 9I C ^\nO 9I C ^\nO 9I C ^\nO 9I C ^\nO 9I C ^\nO 9I C ^\nO 9I C ^\nO 9I C ^\nO 9I C ^\nO 9I C ^\nO 9I C ^\nO 9I C ^\nO 9I C ^\nO 9I C ^\nO 9I C ^\nO 9I C ^\nO 9I C ^\nO 9I C ^\nO 9I C ^\nO 9I C ^\nO 9I C ^\nO 9I C ^\nO 9I C ^\nO 9I C ^\nO 9I C ^\nO 9I C ^\nO 9I C ^\nO 9I C ^\nO 9I C ^\nO 9I C ^\nO b0 F Aj a 4 1LQ ~59 1 ~59 1MO ~59 2 ~59\nO 6l D ^ I k ~9J\nO 6l D ^ I i\nO 6R C d D ^\nO 6R C d D ^\nO 6R C d D ^\nO 6R C d D ^\nO 6R C d D ^\nO 6R C d D ^\nO 6R C d D ^\nO 6R C d D ^\nO 6R C d D ^\nO 6R C d D ^\nO 6R C d D ^\nO 6R C d D ^\nO 6R C d D ^\nO 6R C d D ^\nO 6R C d D ^\nO 6R C d D ^\nO 6R C d D ^\nO 6R C d D ^\nO 6R C d D ^\nO 6R C d D ^\nO 6R C d D ^\nO 6R C d D ^\nO 6R C d D ^\nO 6R C d D ^\nO 6R C d D ^\nO 6R C d D ^\nO 6R C d D ^\nO 6R C d D ^\nO 6R C d D ^\nO 6R C d D ^\nO 6R C d D ^\nO 6R C d D ^\nO 6R C d D ^\nO 6R C d D ^\nO 6R C d D ^\nO 6R C d D ^\nO 6R C d D ^\nO 6R C d D ^\nO 6R C d D ^\nO 6R C d D ^\nO 6R C d D ^\nO 6R C d D ^\nO 6R C d D ^\nO 6R C d D ^\nO 6R C d D ^\nO 6R C d D ^\nO 6R C d D ^\nO 6R C d D ^\nO 6R C d D ^\nO 6R C d D ^\nO 6R C d D ^\nO 6R C d D ^\nO 6R C d D ^\nO 6R C d D ^\nO 6R C d D ^\nO 6R C d D ^\nO 6R C d D ^\nO 6R C d D ^\nO 6R C d D ^\nO 6R C d D ^\nO 6R C d D ^\nO 6R C d D ^\nO 6R C d D ^\nO 6R C d D ^\nO 6R C d D ^\nO 6R C d D ^\nO 6R C d D ^\nO 6G C d D ^ o 2 2 ~7d 1L4 ~7d\nO 6G C d D ^ o 2 2 ~7d 1L4 ~7d\nO 6R C d D ^\nO 6R C d D ^\nO 6R C d D ^\nO 6R C d D ^\nO 6R C d D ^\nO 6R C d D ^\nO 6R C d D ^\nO 6R C d D ^\nO 6R C d D ^\nO 6R C d D ^\nO 6R C d D ^\nO 6R C d D ^\nO 6R C d D ^\nO 6R C d D ^\nO 6R C d D ^\nO 6R C d D ^\nO 6R C d D ^\nO 6R C d D ^\nO 6R C d D ^\nO 6R C d D ^\nO 6R C d D ^\nO 6R C d D ^\nO 6R C d D ^\nO 6R C d D ^\nO 6R C d D ^\nO 6R C d D ^\nO 6R C d D ^\nO 6R C d D ^\nO 6R C d D ^\nO 6R C d D ^\nO 6R C d D ^\nO 6R C d D ^\nO 6R C d D ^\nO 6R C d D ^\nO 6R C d D ^\nO 6R C d D ^\nO 6R C d D ^\nO 6R C d D ^\nO 6R C d D ^\nO 6R C d D ^\nO 6R C d D ^\nO 6R C d D ^\nO 6R C d D ^\nO 6R C d D ^\nO 6R C d D ^\nO 6R C d D ^\nO 6R C d D ^\nO 6R C d D ^\nO 6R C d D ^\nO 6R C d D ^\nO 6R C d D ^\nO 6R C d D ^\nO 6R C d D ^\nO 6R C d D ^\nO 6R C d D ^\nO 6R C d D ^\nO 6R C d D ^\nO 6R C d D ^\nO 6R C d D ^\nO 6R C d D ^\nO 6R C d D ^\nO 6R C d D ^\nO 6R C d D ^\nO 6R C d D ^\nO 6R C d D ^\nO 6R C d D ^\nO 6R C d D ^\nO 6R C d D ^\nO 7c C b S z7 o 1 1LQ ~7d\nO 6R C d D ^\nO 6R C d D ^\nO 6R C d D ^\nO 6R C d D ^\nO 6R C d D ^\nO 6R C d D ^\nO 6R C d D ^\nO 6R C d D ^\nO 6R C d D ^\nO 72 C d D ^ Y 7c\nO 6v D ^ Z k ~7d\nO kA a 2 11W ~59 NL ~59\nO 8N a 9 11W ~59 1M1 EM 1M2 ~59 1M3 ~7d 1M4 ~7d 1M5 ~8O 1M6 ~8P 1M7 ~59 1M8 ~8P\nO 9I C ^ o 2 1NE ~bb 2 ~59\nO 9I C ^ o 2 1NE ~bb 2 ~59\nO 9I C ^\nO 9I C ^\nO 9I C ^ o 1 2 ~59\nO 9I C ^ o 1 2 ~59\nO 9I C ^ o 2 1NE ~bb 2 ~59\nO 9I C ^ o 2 1NE ~bb 2 ~59\nO 9I C ^\nO 9I C ^ o 1 2 ~59\nT 5k P = 1EO 1 8r 4 EY 8r 8s 5l C ^ a 3 1LQ ~59 2 ~59 1M0 Fm\nO 9I C ^\nO 9I C ^\nO 9I C ^\nO 9I C ^\nO 9I C ^ o 1 2 ~59\nO 9I C ^ o 1 2 ~59\nO 7c C ^ S L\nO 7c C ^ S L o 1 1L4 ~7d\nT 5k P = 1EU 1 5l 2 F7 5l C ^ a 7 1LQ ~59 1WC ~bb 1L2 Fi 1L6 Fj 1L3 Fk 1M0 Fl 2 ~7d o 1 2 ~7d\nT 5k P = 1EV 1 5l 2 F8 5l C ^ a 8 1LQ ~59 2 ~59 1L2 Fc 1KY Fd 1P8 Fe 1P9 Ff 1L3 Fg 1M0 Fh\nO 9I C ^ o 3 1NE ~bb 2 ~59 1Nr ~9J\nO 9I C ^\nO 7c C ^ S L o 2 2 ~7d 1L4 ~7d\nO 9I C ^ o 2 2 ~59 1Nr ~9J\nO 9I C ^\nO 9I C ^\nO 9I C ^\nO 6l D ^\nO 6l D ^\nO 9I C ^ o 1 1NE ~bb\nO 9I C ^\nO 6l D ^\nO 6l D ^\nO 6l D ^\nO kA a 2 11W ~59 NL ~59\nO 8N a 9 11W ~59 1M1 Fn 1M2 ~59 1M3 ~7d 1M4 ~7d 1M5 ~8O 1M6 ~8P 1M7 ~59 1M8 ~8P\nT Gz P = DX 1 5l 2 Fp 5l C ^ a o 1LQ ~59 2 ~59 1KX Hr 1L2 Hs 1WD GA 1WE Ht 1KY Hu 1L6 Hv ur Hw 1LM Hx 1L5 Hy 1MR Hz 11W HC 1TK HD 1WF GE 1WG ~8P 1WH ~8O 1WI ~9J 1WJ ~9J 1WK ~8O 1WL 5l 1WM ~7d 1L3 HE 1M0 HF\nO 9I C o 1G o 3 1NE ~bb 2 ~59 1Nr ~9J\nT Gz P = 1E5 1 Fp 3 Fr Fp 5l C ^ a f 1WF 7y 1WG ~8P 1WD GA 1WH ~8O 1WI ~9J 1WJ ~9J 1WK ~8O 1WL 5l 1WM ~7d 1LQ ~59 2 ~59 1WN GB 1WO GC 1WP GD 1KX GE\nT 5k P = 1E6 1 5l 2 Fs 5l C ^ a y 1LQ ~59 2 ~59 1On ~bb 1L2 FP 1MT FQ 1N8 FR 10L FS 10J FT 10O FU 10K FV 10N FW 1L5 FX 1Ml FY 1KY FZ 1L0 G0 1L6 G1 pH G2 1WQ G3 yX G4 1WR G5 1WS G6 1WT G7 1WU G8 1WV G9 5T Ga 1WW Gb 1ag Gc pe Gd 1WX Ge 1WY Gf Nh Gg pQ Gh 1WZ Gi 1M0 Gj\nO 9I C ^\nO 9I C ^\nO 9I C ^ o 1 2 ~59\nO 9I C ^\nO 9I C ^ o 1 2 ~59\nO 9I C ^ o 1 2 ~59\nO 9I C ^ o 1 2 ~59\nO 9I C ^ o 1 2 ~59\nO 9I C ^ o 1 2 ~59\nO 9I C ^ o 1 2 ~59\nO 9I C ^ o 1 2 ~59\nO 9I C ^ o 1 2 ~59\nO 7c C ^ S K o 2 2 ~7d 1L4 ~7d\nO 9I C ^ o 1 2 ~59\nO 9I C ^ o 1 2 ~59\nO 9I C ^ o 1 2 ~59\nO 9I C ^ o 1 2 ~59\nO 9I C ^ o 1 2 ~59\nO 9I C ^ o 2 1NE ~bb 2 ~59\nO 9I C ^ o 1 2 ~59\nO 9I C ^ o 1 2 ~59\nO 9I C ^ o 1 2 ~59\nO 9I C ^ o 3 1NE ~bb 2 ~59 1Nr ~9J\nO 9I C ^\nO 9I C ^\nO 9I C ^\nO 9I C ^\nO 9I C ^\nO 9I C ^\nO 9I C ^\nO 9I C ^\nO 9I C ^\nO 9I C ^\nO 9I C ^\nO 9I C ^\nO 9F Z k ~db o 2 2 ~7d 1Ns Gy\nO 9F Z k ~db o 2 2 ~7d 1Ns Gx\nO 9F Z k ~bb o 2 2 ~7d 1Ns Gw\nO 9F Z k ~5j o 2 2 ~7d 1Ns Gv\nO 9F Z k ~5j o 2 2 ~7d 1Ns Gu\nO 9F Z k ~5j o 2 2 ~7d 1Ns Gt\nO 9F Z k ~5j o 2 2 ~7d 1Ns Gs\nO 9F Z k ~5j o 2 2 ~7d 1Ns Gr\nO 9F Z k ~5j o 2 2 ~7d 1Ns Gq\nO 9F Z k ~5j o 2 2 ~7d 1Ns Gp\nO 9F Z k ~5j o 2 2 ~7d 1Ns Go\nO 9F Z k ~59 o 2 2 ~7d 1Ns Gn\nO 9F Z k ~59 o 2 2 ~7d 1Ns Gm\nO 9F Z k ~59 o 2 2 ~7d 1Ns Gl\nO 9F Z k ~5j o 2 2 ~7d 1Ns Gk\nO 6v D ^ Z k ~5j\nO 6v D ^ Z k GH\nO 6l D ^ Z k ~7d\nO 9I C q 1DT 1E6 Nh\nO 9I C q 1DT 1E6 1WY\nO 9I C q 1DT 1E6 1WX\nO 9I C q 1DT 1E6 pe\nO 9I C q 1DT 1E6 1ag\nO 9I C q 1DT 1E6 1WW\nO 9I C q 1DT 1E6 5T\nO 9I C q 1DT 1E6 1WV\nO 9I C q 1DT 1E6 1WU\nO 9I C q 1DT 1E6 1WT\nO 9I C q 1DT 1E6 1WS\nO 9I C q 1DT 1E6 1WR\nO 9I C q 1DT 1E6 yX\nO 9I C q 1DT 1E6 1WQ\nO 9I C q 1DT 1E6 pH\nT 5k P = Eh 1 5k 3 Gz 5k 5l H e C ^ a o 1LQ ~59 2 ~59 1ME GX 1KX GY 1Mf GZ 10T H0 11b H1 1L1 H2 ur H3 us H4 11d H5 1L7 H6 1L9 H7 1X0 H8 1KY H9 1Ni Ha 1L0 Hb 1X1 Hc 1X2 Hd 1X3 He 1X4 Hf 1X5 Hg 1X6 Hh 1X7 Hi\nO 9I C ^ o 1 2 ~59\nO GI I k GF R k GF a 8 1Ns ~7d 1Nt ~7d 1Ny ~7d 2 ~7d 1X8 ~8P 1Nz ~8P 11W ~59 1X9 ~59\nO GI I k GG R k GG a 8 1Ns ~7d 1Nt ~7d 1Ny ~7d 2 ~7d 1X8 ~8P 1Nz ~8P 11W ~59 1X9 ~59\nO GI I k GH R k GH a 8 1Ns ~7d 1Nt ~7d 1Ny ~7d 2 ~7d 1X8 ~8P 1Nz ~8P 11W ~59 1X9 ~59\nO 9I C q DS DX 1KX\nO Fr a 4 1Xa ~5j 1Xb ~59 1N1 Fr 1Xc ~5j o 1 1M0 ~7d\nO Fr a 4 1Xa ~5j 1Xb ~59 1N1 Fr 1Xc ~5j o 1 1M0 ~7d\nO Fr a 4 1Xa ~7d 1Xb ~59 1N1 Fr 1Xc ~5j o 2 1M0 ~7d 1TK ~7d\nT 5k P = pP 1 GJ 3 GI GJ 5l C ^ a 6 1LQ ~59 2 ~59 1MY GK 1MZ GL 1N0 GM 1Nx GN\nT 5k P = DV 1 5l 2 GJ 5l C o 4J a b 1LQ ~59 2 ~59 1L2 GO 1MY GP 1MZ GQ 1N0 GR 1Nu GS 1Nv GT 1Nw GU 1L3 GV 1M0 GW\nO 9I C ^ o 1 1NE ~bb\nO 9I C ^\nO 9I C ^\nO 9I C ^\nO 9I C ^ o 1 1NE ~bb\nO 9I C ^ o 1 1NE ~bb\nO 9I C ^\nO 9I C ^\nO 9I C ^\nO 9I C ^\nO 9I C ^\nO 6l D ^ I k ~9J\nO 6l D ^ I k ~7d\nO b0 F Hq a 5 1LQ ~59 1 ~59 1MO ~59 2 ~7d RL ~9J\nO bz C t 1NP F Hp\nO 9I C ^ o 1 2 ~59\nO 9I C ^ o 3 1NE ~bb 2 ~59 1Nr ~9J\nO 9I C ^ o 1 2 ~59\nO 9I C ^ o 1 1NB ~bb\nO 9I C ^\nO 9I C ^ o 1 2 ~59\nO 9I C ^ o 1 2 ~59\nO 9I C ^ o 1 2 ~59\nO 9I C ^ o 1 2 ~59\nO 9F I k ~WI o 1 1Ns Ho\nO 9I C ^\nO 9I C ^ o 1 2 ~59\nO 9I C ^ o 2 1NB ~bb 2 ~59\nO 9I C ^ o 2 2 ~59 1Nr ~9J\nO 9I C ^ o 3 1NE ~bb 2 ~59 1Nr ~9J\nO b0 F Hn a 5 1LQ ~59 1 ~59 1MO ~59 2 ~7d RL ~9J\nO b0 F Hm a 5 1LQ ~59 1 ~59 1MO ~59 2 ~59 RL ~9J\nO b0 F Hl a 5 1LQ ~59 1 ~59 1MO ~59 2 ~7d RL ~9J\nO b0 F Hk a 5 1LQ ~59 1 ~59 1MO ~59 2 ~7d RL ~9J\nO b0 F Hj a 5 1LQ ~59 1 ~59 1MO ~59 2 ~59 RL ~9J\nO 9I C q DS Eh 1X7 o 1 2 ~59\nO 9I C q DS Eh 1X6\nO 9I C q DS Eh 1X5\nO 9I C q DS Eh 1X4 o 1 2 ~59\nO 9I C q DS Eh 1X3\nO 9I C q DS Eh 1X0 o 1 2 ~59\nO 9I C q DS Eh 1KX o 2 1NB ~bb 1Nr ~9J\nO 9I C q DS Eh 1ME\nO bz C t 1NP F GE\nO 9I C ^\nO b0 F HI a 5 1LQ ~59 1 ~59 1MO ~59 2 ~7d RL ~9J\nO 9I C ^\nO 9I C ^\nO 9I C ^ o 1 2 ~59\nO 9I C ^\nO 9I C ^\nO 9I C ^\nO 9I C q DS DX 1Rc\nO 9I C q DS DX 1Rb\nO GI I k ~59 R k $ qc 1 11W a 8 1Ns HH 1Nt ~7d 1Ny ~7d 2 ~59 1X8 ~8P 1Nz ~8P 11W ~59 1X9 ~59\nO GI I k ~5j R k $ qc 1 1TK a 8 1Ns HG 1Nt ~7d 1Ny ~7d 2 ~59 1X8 ~8P 1Nz ~8P 11W ~59 1X9 ~59\nO 6l D ^ I k ~9J\nO 6l D ^ I k $ qc 1 1Xd\nO 9I C q DS DX 1TK o 1 2 ~59\nO 9I C q DS DX 11W o 1 2 ~59\nO 9I C q DS DX 1WE\nO kA a 2 11W ~59 NL ~59\nO 8N a 9 11W ~59 1M1 HJ 1M2 ~59 1M3 ~7d 1M4 ~7d 1M5 ~8O 1M6 ~8P 1M7 ~59 1M8 ~8P\nO 9I C ^ o 2 2 ~59 1Nr ~9J\nO 9I C ^ o 1 2 ~59\nO 9I C ^\nO 9I C ^ o 1 1NE ~bb\nO 9I C ^ o 1 1NE ~bb\nO 9I C ^\nT 5k P = 1CR 1 5l 2 HR 5l C ^ a 4 1LQ ~59 2 ~59 1On ~bb 31 Ke\nT 5k P = 1CS 1 5l 2 HS 5l C ^ a 4 1LQ ~59 2 ~59 1On ~bb 32 Kd\nT 5k P = 1CT 1 5l 2 HT 5l C ^ a 8 1LQ ~59 2 ~59 1On ~bb 1Xe K4 1Xf K5 1Xg K6 1Xh K7 1Nq K8\nT 5k P = 1CU 1 HT 4 HU HT HR 5l C ^ a 5 1LQ ~59 1On ~bb 1Xi K0 1Xj K1 2 ~7d o 1 2 ~7d\nT 5k P = 1CV 1 HT 4 HV HT HS 5l C ^ a 5 1LQ ~59 1On ~bb 1Xi JW 1Xj JX 2 ~7d o 1 2 ~7d\nT 5k P = 1D0 1 bb 3 HW bb 5l C q 1CB - 1D0 a e 2 ~59 1On ~bb 1Xk ~bb 1Xl ~9J 1KX JM 1Xm JN 1Xn JO 1KY JP 1Xo JQ 1LP JR 1Xp ~bb 1Xq JS 1Xr JT 1LQ ~59\nT 5k P = 1D1 1 bb 3 HX bb 5l C q 1CB - 1D1 a h 2 ~59 1On ~bb 1Xk ~bb 1Xl ~9J 1KX Jz 1Xm JA 1Xn JB 1KY JC 1Xo JD 1LP JE 1Xp ~bb 1Xs JF 1Xt JG NL JH 1Xu JI 1Xr JJ 1LQ ~59\nT 5k P = 1D2 1 bb 3 HY bb 5l C q 1CB - 1D2 a i 2 ~59 1On ~bb 1Xk ~bb 1Xl ~9J 1KX Jd 1Xm Je 1Xn Jf 1KY Jg 1Xo Jh 1LP Ji 1Xp ~bb 1Xs Jj 1Xt Jk NL Jl 1Xv Jm 1Xu Jn 1Xr Jo 1LQ ~59\nT 5k P = 1D0 1 HW 5 HZ HW bb HR 5l C ^ a 5 1LQ ~59 1On ~bb 1Xw Jc 2 ~7d 1Xx I2 o 1 2 ~7d\nT 5k P = 1D1 1 HX 7 I0 HX bb HU HT HR 5l C ^ a 5 1LQ ~59 1On ~bb 1Xw Jb 2 ~7d 1Xx I3 o 1 2 ~7d\nT 5k P = 1D2 1 HY 7 I1 HY bb HU HT HR 5l C ^ a 5 1LQ ~59 1On ~bb 1Xw Ja 2 ~7d 1Xx I4 o 1 2 ~7d\nT 5k P = 1D3 1 HW 5 I2 HW bb HS 5l C ^ a 5 1LQ ~59 1On ~bb 1Xw J9 2 ~7d 1Xy HZ o 1 2 ~7d\nT 5k P = 1D4 1 HX 7 I3 HX bb HV HT HS 5l C ^ a 5 1LQ ~59 1On ~bb 1Xw J8 2 ~7d 1Xy I0 o 1 2 ~7d\nT 5k P = 1D5 1 HY 7 I4 HY bb HV HT HS 5l C ^ a 5 1LQ ~59 1On ~bb 1Xw J7 2 ~7d 1Xy I1 o 1 2 ~7d\nO 9I C ^ o 2 1NE ~bb 2 ~59\nO 9I C ^\nO 9I C ^ o 1 1NE ~bb\nO 9I C ^\nO 9I C ^\nO IO C ^ a 7 1Xz J5 1LQ ~59 1 ~59 1MO ~59 2 ~59 RL ~9J 1NO J6\nO 9I C ^ o 1 2 ~59\nO 9I C ^ o 1 2 ~59\nO 9I C ^ o 2 1NE ~bb 2 ~59\nO 9I C ^ o 1 2 ~59\nO 9I C ^ o 1 2 ~59\nO 9I C ^ o 2 1NE ~bb 2 ~59\nO 9I C ^ o 2 1NE ~bb 2 ~59\nO 9I C ^ o 2 1NE ~bb 2 ~59\nO 9I C ^ o 2 1NE ~bb 2 ~59\nO 9I C ^\nT 5k P = 1Dp 1 9J 3 Il 9J 5l C ^ a 7 1LQ ~59 2 ~59 1L2 J0 1KY J1 1XA J2 1L3 J3 1M0 J4\nO 9I C ^ o 2 1NE ~bb 2 ~59\nO 9I C ^ o 2 1NE ~bb 2 ~59\nO IO C ^ a 7 1Xz IP 1LQ ~59 1 ~59 1MO ~59 2 ~7d RL ~9J 1NO IQ\nO 9I C o 4N o 2 1NE ~bb 2 ~59\nO 9I C ^ o 2 1NE ~bb 2 ~59\nO 9I C ^\nO 9I C ^ o 1 2 ~59\nO 9I C ^ o 1 2 ~59\nO 9I C ^\nO 9I C ^ o 1 2 ~59\nO 9I C ^\nO 9I C ^ o 1 2 ~59\nO 9I C ^\nO 9I C ^ o 1 2 ~59\nO 9I C ^\nO 9I C ^ o 1 2 ~59\nO 9I C ^\nO 9I C ^ o 1 2 ~59\nO 9I C ^ o 1 1NE ~bb\nO 9I C ^ o 2 1NE ~bb 2 ~59\nO 9I C ^\nO 9I C ^ o 1 2 ~59\nO 9I C ^\nO 9I C ^ o 1 2 ~59\nO 9I C ^\nO 9I C ^ o 1 2 ~59\nO 9I C ^\nO 9I C ^ o 1 2 ~59\nT 5k P 1XB 8K 1 5l 2 IO 5l C o 1N a b 1KX IR 10T IS 1MY IT 1XC IU 1XD IV 1MS IW 1Rb IX 1Rc IY 1L3 IZ 2 ~59 1LQ ~59\nO 9I C q vw 1XE 1XF o 1 1NB ~bb\nO 9I C q 1CB - 1Dr\nO 7c C b S IO o 1 1LQ ~7d\nO 6R C d D ^\nO 6R C d D ^\nO 6G C d D ^ Y 7c o 2 2 ~7d 1L4 ~7d\nO 6G C d D ^ Y 7c o 2 2 ~7d 1L4 ~7d\nO 6G C d D ^ Y 7c o 2 2 ~7d 1L4 ~7d\nO 6G C d D ^ Y 7c o 2 2 ~7d 1L4 ~7d\nO 6G C d D ^ Y 7c o 2 2 ~7d 1L4 ~7d\nO 6l D ^ I k ~9J o 1 2 ~7d\nO 9I C ^ o 1 2 ~59\nO 9I C ^\nO 9I C ^\nO 6l D ^\nO 6l D ^\nO 9I C q vw 1XG 1XF o 1 1NB ~bb\nO 9I C q 1CB - 1Db o 2 1NE ~bb 2 ~59\nO 9I C ^\nO 9I C ^\nO 9I C ^\nO 9I C ^\nO 9I C ^\nO 9I C ^\nO bz C t 1NP F Jy\nO b0 F Jx a 5 1LQ ~59 1 ~59 1MO ~59 2 ~7d RL ~9J\nO 9I C q tH 1D2 1Xn o 2 1NB ~bb 2 ~59\nO 9I C q tH 1D2 1KY o 2 1NB ~bb 2 ~59\nO 9I C q tH 1D2 1Xo o 2 1NB ~bb 2 ~59\nO 9I C q tH 1D2 1LP o 2 1NB ~bb 2 ~59\nO Jp\nO Jp\nO Jp\nO Jp\nO Jp\nO Jp\nT 5k P 1XH 3I 0 5l 2 Jp 5l C ^ a 7 1KX Jq 1KY Jr 1MY Js 1MZ Jt 1N0 Ju 1MS Jv 2 Jw o 1 2 Jw\nO 7c C b S Jp o 1 1LQ ~7d\nO 6R C d D ^\nO 6R C d D ^\nO 6R C d D ^\nO 6R C d D ^\nO 6G C d D ^ Y 7c o 2 2 ~7d 1L4 ~7d\nO 6v D ^ I k ~59\nO 9I C q tH 1D2 1Xm o 2 1NB ~bb 2 ~59\nO 9I C q 1XI 1D2 1KX o 1 2 ~59\nO bz C t 1NP F JL\nO b0 F JK a 5 1LQ ~59 1 ~59 1MO ~59 2 ~7d RL ~9J\nO 9I C q tH 1D1 1Xn o 2 1NB ~bb 2 ~59\nO 9I C q tH 1D1 1KY o 2 1NB ~bb 2 ~59\nO 9I C q tH 1D1 1Xo o 2 1NB ~bb 2 ~59\nO 9I C q tH 1D1 1LP o 2 1NB ~bb 2 ~59\nO Jp\nO Jp\nO Jp\nO Jp\nO Jp\nO 9I C q tH 1D1 1Xm o 2 1NB ~bb 2 ~59\nO 9I C q 1XJ 1D1 1KX o 1 2 ~59\nO bz C t 1NP F JV\nO b0 F JU a 5 1LQ ~59 1 ~59 1MO ~59 2 ~7d RL ~9J\nO 9I C q tH 1D0 1Xn o 2 1NB ~bb 2 ~59\nO 9I C q tH 1D0 1KY o 2 1NB ~bb 2 ~59\nO 9I C q tH 1D0 1Xo o 2 1NB ~bb 2 ~59\nO 9I C q tH 1D0 1LP o 2 1NB ~bb 2 ~59\nO Jp\nO Jp\nO 9I C q tH 1D0 1Xm o 2 1NB ~bb 2 ~59\nO 9I C q 1XK 1D0 1KX o 1 2 ~59\nO 9F o 2 2 ~7d 1Ns JZ\nO 9F o 2 2 ~7d 1Ns JY\nO 9I C q 1CB 1CV 1Xj\nO 9I C q 1CB 1CV 1Xi\nO 9F o 2 2 ~7d 1Ns K3\nO 9F o 2 2 ~7d 1Ns K2\nO 9I C q 1CB 1CU 1Xj\nO 9I C q 1CB 1CU 1Xi\nO 9F o 2 2 ~7d 1Ns Kc\nO 9F o 2 2 ~7d 1Ns Kb\nO 9F o 2 2 ~7d 1Ns Ka\nO 9F o 2 2 ~7d 1Ns K9\nO b0 F Aj a 4 1LQ ~59 1 ~59 1MO ~59 2 ~59\nO 9I C q 1CB 1CT 1Xh\nO 9I C q 1CB 1CT 1Xg\nO 9I C q 1CB 1CT 1Xf\nO 9I C q 1CB 1CT 1Xe\nO 9I C ^ o 1 1NE ~bb\nO 9I C ^ o 1 1NE ~bb\nO kA a 2 11W ~59 NL ~59\nO 8N a 9 11W ~59 1M1 Kf 1M2 ~59 1M3 ~7d 1M4 ~8O 1M5 ~8O 1M6 ~8P 1M7 ~59 1M8 ~8P\nO 8N a 9 11W ~59 1M1 5a 1M2 ~59 1M3 ~7d 1M4 ~7d 1M5 ~8O 1M6 ~8P 1M7 ~7d 1M8 ~8P o 1 1M9 ~7d\nO 7c C ^ S 4L\nO 7c C ^ S 4L\nO 7c C ^ S 4L\nO 7c C ^ S 4L\nO 7c C ^ S 4L\nO 7c C ^ S 4L\nO 7c C ^ S 4L\nO 7c C ^ S 4L\nO 7c C ^ S 4L\nO 7c C ^ S 4L\nO 7c C ^ S 4L\nO 7c C ^ S 4L\nO 7c C ^ S 4L\nT 5k P 1XL 1Cy 1 5l 2 Kv 5l C ^ a h 1KZ Ky 61 Kz 1Co KA 1Cp KB 1Cq KC 1Cr KD 1Cs KE 1Ct KF 1Cu KG 1Cv KH 11W KI 30 KJ 1Cw KK UA KL 1Cx KM 2 ~7d 1LQ ~59 o 1 2 ~7d\nT 5k P = 1XM 0 5l 2 Kw 5l C q oV - 1XM a 2 1KY Kx 2 ~59\nO 6R C d D ^\nO 6R C d D ^\nO 6G C d D ^ Y 7c\nO 6G C d D ^ Y 7c\nO 6G C d D ^ Y 7c\nO 6G C d D ^ Y 7c\nO 6G C d D ^ Y 7c\nO 6G C d D ^ Y 7c\nO 6G C d D ^ Y 7c\nO 6G C d D ^ Y 7c\nO 6G C d D ^ Y 7c\nO 6G C d D ^ Y 7c\nO 6G C d D ^ Y 7c\nO 6G C d D ^ Y 7c\nO 6G C d D ^ Y 7c\nO 6v D ^ Z k ~59\nO kA a 2 11W ~59 NL ~59\nO 8N a 9 11W ~59 1M1 KN 1M2 ~59 1M3 ~7d 1M4 ~7d 1M5 ~8O 1M6 ~8P 1M7 ~59 1M8 ~8P\nO 9I C o O o 1 2 ~59\nT 5k P 1XN 3E 0 9J 3 KQ 9J 5l C o 15 a c 1KY Wv 1KZ Ww 1L2 Wx 113 Wy 1Mk Wz 1XA WA wg WB 1Rb WC 1MS WD 1Nq WE 1XO WF 2 ~59\nT 5k P = 1XP 0 5l 2 KR 5l C q oV - 1XP a h 1KY We 1L5 Wf 10T Wg 1KZ Wh 10J Wi 10K Wj 10L Wk 10M Wl 10O Wm 10N Wn 1MS Wo 1N7 Wp 1N1 Wq 1 Wr 1MO Ws 2 Wt 1L4 Wu o 1 2 Wt\nO 7c C ^ S J o 1 2 ~7d\nO 9I C ^ o 3 1NE ~bb 2 ~59 1Nr ~9J\nO 9I C ^ o 3 1NE ~bb 2 ~59 1Nr ~9J\nO 9I C ^\nO 9I C ^ o 1 2 ~59\nO 9I C ^ o 1 2 ~59\nO 9I C ^ o 1 2 ~59\nO 9I C ^ o 1 2 ~59\nO 9I C ^\nO 9I C ^ o 1 1Nr ~9J\nO 9I C ^\nO 9I C ^\nO 9I C ^ o 1 2 ~59\nO 9I C ^ o 1 2 ~59\nO 9I C ^ o 3 1NE ~bb 2 ~59 1Nr ~9J\nO 9I C ^ o 2 1NE ~bb 2 ~59\nT 5k P = 1AO 1 5l 2 L8 5l C ^ a 5 1LQ ~59 2 ~59 1On ~bb 1MV Wb 1M0 Wc\nT 5k P = 1AP 1 5l 2 L9 5l C ^ a 5 1LQ ~59 2 ~59 1On ~bb 1Rb W9 1Rc Wa\nT 5k P = 1AQ 1 5l 2 La 5l C ^ a 4 1LQ ~59 2 ~59 1On ~bb 1L7 ~7d\nT 5k P = 1AR 1 L8 4 Lb L8 La 5l H s C ^ a g 1LQ ~59 1On ~bb 1L2 VU us VV 1Ww VW 1KY VX 1MS VY 10T VZ 113 W0 1Mk W1 1MF W2 1MG W3 11d W4 2 W5 1XQ W6 1TQ W7 o 1 2 W5\nT 5k P = 1AS 1 Lb 5 Lc Lb L8 La 5l H s C ^ a 4 1LQ ~59 11d VS 1L3 VT 2 ~7d o 1 2 ~7d\nT 5k P = 1AT 1 5k 3 Ld 5k 5l C ^ a 4 1LQ ~59 1MF VQ 1KY VR 2 ~7d o 1 2 ~7d\nT Ld P = Nv 1 5l 2 Le 5l C o 4K a 5 1LQ ~59 2 ~59 1KX VM 1L3 VN 1M0 VO\nO Lb C o 4K\nO Lb C ^ o 1 1XQ VK\nO Lb C ^ o 1 1XQ VJ\nO Lb C ^ o 1 1XQ VI\nO Lb C o 4K o 1 1XQ VH\nO Lb C o 4K o 1 1XQ VG\nO Lb C o 4K o 1 1XQ VF\nO Lb C o 4K o 1 1XQ VE\nO Lc C o 4K a 1 2 ~59 o 1 1XQ VC\nO Lb C ^ o 1 1XQ VB\nO Lb C ^ o 1 1XQ VA\nO Lb C ^ o 1 1XQ Vz\nT 5k P = 1B0 1 L8 3 Lr L8 5l C ^ a h 1LQ ~59 2 ~59 1On ~bb 1L2 Vl 1XR Vm 10L Vn 1L5 Vo 113 Vp 1Mk Vq 1KY Vr 1XS Vs 1XT Vt 1XU Vu 1XV Vv 1XW Vw 1XX Vx 1XY Vy\nO 9I C ^\nO 9I C ^\nT 5k P = 1B3 1 5l 2 Lu 5l C ^ a 5 1LQ ~59 2 ~59 1MS Vi 1L3 Vj 1M0 Vk\nT 5k P = 1B4 1 5l 2 Lv 5l C ^ a 8 1LQ ~59 2 ~59 1L2 Vc 113 Vd 1Mk Ve 1KY Vf 1L3 Vg 1M0 Vh\nT 5k P = Nx 1 L8 6 Lw L8 L9 Lv Lu 5l C o 4K a 5 1LQ ~59 2 ~59 1L2 V9 1XZ Va 1L3 Vb\nT 5k P = 1B5 1 L8 5 Lx L8 L9 Lu 5l C ^ a 8 1LQ ~59 2 ~59 1L2 V3 1L7 V4 1KY V5 1XZ V6 1Y0 V7 1L3 V8\nT 5k P = 1B6 1 L8 4 Ly L8 L9 5l C ^ a 7 1LQ ~59 2 ~59 1L2 UZ 1KY V0 10L V1 1L3 V2 1L5 ~7d\nT 5k P = 1B7 1 L8 4 Lz L8 L9 5l C ^ a 7 1LQ ~59 2 ~59 1L2 UV 1KY UW 10L UX 1L3 UY 1L5 ~7d\nT 5k P = 1B8 1 L8 6 LA L8 L9 Lv Lu 5l C ^ a 8 1LQ ~59 2 ~59 1Nc UN 1Wt UO 1L2 UP 1XZ UQ 1Y0 UR 1L3 US\nO 9I C ^\nT 5k P = 1B9 1 L8 3 LC L8 5l H d C ^ a b 1LQ ~59 2 ~59 1L2 UE 10T UF 1Ww UG us UH 1L0 UI 1MF UJ 1MG UK ur UL 1L3 UM\nT 5k P = 1Ba 1 LC 4 LD LC L8 5l H d C ^ a f 1LQ ~59 1L2 Uq 10L Ur 1L5 Us 113 Ut 1Mk Uu 11d Uv 1Y1 Uw 1Y2 Ux 1Y3 Uy 1KY Uz 1MS UA 1Ww UB 1L7 UC 2 ~7d o 1 2 ~7d\nT 5k P = 1Bb 1 La 5 LE La LC L8 5l H d C ^ a c 1LQ ~59 1L2 Uf 11d Ug 1Y3 Uh 1KY Ui 1MG Uj 1MS Uk 113 Ul 1Mk Um 1L3 Un 1M0 Uo 2 ~7d o 1 2 ~7d\nT 5k P = 4n 1 La 6 LF La LD LC L8 5l H d C ^ a 6 1LQ ~59 1KY Ub 1MS Uc 1L3 Ud 1M0 Ue 2 ~7d o 1 2 ~7d\nT 5k P = 1Bc 1 LE 6 LG LE La LC L8 5l H d C ^ a 5 1LQ ~59 1Y3 U7 11d U8 1Y4 U9 2 ~7d o 1 2 ~7d\nT 5k P = 1Bd 1 LE 6 LH LE La LC L8 5l H d C ^ a 3 1LQ ~59 11d U5 2 ~7d o 1 2 ~7d\nT 5k P = 1Be 1 La 6 LI La LD LC L8 5l H d C ^ a b 1LQ ~59 1Y3 TW 10L TX 1L5 TY 1KY TZ 1MF U0 1MG U1 1MS U2 1L3 U3 1M0 U4 2 ~7d o 1 2 ~7d\nO 9I C ^\nT 5k P = 1Bg 1 LD 5 LK LD LC L8 5l H d C ^ a 4 1LQ ~59 10L TU 1L5 TV 2 ~7d o 1 2 ~7d\nT 5k P = 1Bh 1 LD 5 LL LD LC L8 5l H d C ^ a 3 1LQ ~59 1Y3 TT 2 ~7d o 1 2 ~7d\nO Lb C ^ o 1 1XQ TS\nT 5k P = 1Bj 1 LD 5 LN LD LC L8 5l H d C ^ a 6 1LQ ~59 1KY TM 11d TN 1WB TO 1Y5 TP 2 ~7d o 1 2 ~7d\nT 5k P = 1Bk 1 5l 2 LO 5l C ^ a 6 1LQ ~59 2 ~59 1On ~bb 1Y6 ~8P 1Nq TH 1MV TI\nT 5k P = 1Bl 1 5l 2 LP 5l C ^ a 4 1LQ ~59 2 ~59 1L3 TF 1M0 TG\nO 9I C ^ o 1 2 ~59\nO 9I C ^\nO 9I C ^\nO 9I C ^ o 1 1NE ~bb\nO 9I C ^ o 2 1NE ~bb 2 ~59\nT 5k P = 1Bv 1 hS 4 LV hS 5k 5l C ^ a 3 1LQ ~59 1MF TE 2 ~7d o 1 2 ~7d\nT LV P = Nw 1 LO 3 LW LO 5l C o 4K a 9 1LQ ~59 2 ~59 1On ~bb 1Y6 ~8P 1Y7 ~8P 1MV TC 1WA ~bb 1MQ ~i2 1P3 ~i3\nT 5k P = 1Bw 1 La 6 LX La LD LC L8 5l C ^ a b 1LQ ~59 2 ~59 1L2 Tt 1Y3 Tu 1KY Tv 1MS Tw 10L Tx 1L5 Ty us Tz 1L3 TA 1M0 TB\nT 5k P = 1Bx 1 5l 2 LY 5l C ^ a 7 1LQ ~59 2 ~59 1On ~bb 1KX Tl 1Nq Tm 1Y8 Tn 1MV To\nO 9I C o 4K o 1 2 ~59\nO 9I C o 4K o 1 2 ~59\nO 9I C ^ o 1 2 ~59\nO 9I C ^ o 2 1NE ~bb 2 ~59\nO 9I C ^ o 1 2 ~59\nO 9I C ^ o 1 2 ~59\nO 9I C ^ o 1 2 ~59\nO 9I C ^ o 1 2 ~59\nO 9I C ^ o 1 2 ~59\nO 9I C ^ o 1 2 ~59\nO 9I C ^ o 1 2 ~59\nO 9I C ^ o 1 2 ~59\nO 9I C o 4K o 1 2 ~59\nO 9I C ^ o 1 2 ~59\nO 9I C ^ o 1 2 ~59\nO 9I C ^ o 1 2 ~59\nO Lw a 5 1 ~59 1Y9 ~8P 1Ya ~8P 1Yb ~7d 1Yc ~bb\nO Lw a 5 1 ~59 1Y9 ~8P 1Ya ~8P 1Yb ~7d 1Yc ~bb\nO Lw a 5 1 ~59 1Y9 ~8P 1Ya ~8P 1Yb ~7d 1Yc ~bb\nO Lw a 5 1 ~59 1Y9 ~8P 1Ya ~8P 1Yb ~7d 1Yc ~bb\nO Lw a 5 1 ~59 1Y9 ~8P 1Ya ~8P 1Yb ~7d 1Yc ~bb\nO Lw a 5 1 ~59 1Y9 ~8P 1Ya ~8P 1Yb ~7d 1Yc ~bb\nO Lw a 5 1 ~59 1Y9 ~8P 1Ya ~8P 1Yb ~7d 1Yc ~bb\nO Lw a 5 1 ~59 1Y9 ~8P 1Ya ~8P 1Yb 5k 1Yc ~bb\nO Lw a 5 1 ~59 1Y9 ~8P 1Ya ~8P 1Yb ~7d 1Yc ~bb\nO LE C ^ a 6 1cB ~8P 1TQ ~59 1Wx Th 1On ~7d 1Yd ~5j 2 ~59\nO LE C ^ a 6 1cB ~8P 1TQ ~59 1Wx T7 1On ~7d 1Yd ~5j 2 ~59\nO LE C ^ a 6 1cB ~8P 1TQ ~59 1Wx T6 1On ~7d 1Yd ~5j 2 ~59\nO LE C ^ a 6 1cB ~8P 1TQ ~59 1Wx P1 1On ~7d 1Yd ~5j 2 ~59\nO LE C ^ a 6 1cB ~8P 1TQ ~59 1Wx P0 1On ~7d 1Yd ~5j 2 ~59\nO LE C o 4K a 6 1cB ~8P 1TQ ~59 1Wx zP 1On ~7d 1Yd ~5j 2 ~59\nO LE C o 4K a 6 1cB ~8P 1TQ ~59 1Wx Ph 1On ~7d 1Yd ~5j 2 ~59\nO LE C ^ a 6 1cB ~8P 1TQ ~59 1Wx Sq 1On ~7d 1Yd ~5j 2 ~59\nO LE C ^ a 6 1cB ~8P 1TQ ~59 1Wx zO 1On ~7d 1Yd ~5j 2 ~59\nO LE C ^ a 6 1cB ~8P 1TQ ~59 1Wx zQ 1On ~7d 1Yd ~5j 2 ~59\nO LE C ^ a 6 1cB ~8P 1TQ ~59 1Wx zN 1On ~7d 1Yd ~5j 2 ~59\nO LG C o 4K a 6 1cB ~8P 1TQ ~59 1Wx SV 1On ~7d 1Yd ~5j 2 ~59\nO LE C ^ a 6 1cB ~8P 1TQ ~59 1Wx Rk 1On ~7d 1Yd ~5j 2 ~59\nO LE C ^ a 6 1cB ~8P 1TQ ~59 1Wx SL 1On ~7d 1Yd ~5j 2 ~59\nO LE C o 4K a 6 1cB ~8P 1TQ ~59 1Wx zM 1On ~7d 1Yd ~5j 2 ~59\nO LE C ^ a 6 1cB ~8P 1TQ ~59 1Wx zL 1On ~7d 1Yd ~5j 2 ~59\nO LE C o 4K a 6 1cB ~8P 1TQ ~59 1Wx Sp 1On ~7d 1Yd ~5j 2 ~59\nO LE C ^ a 6 1cB ~8P 1TQ ~59 1Wx SA 1On ~7d 1Yd ~5j 2 ~59\nO LE C ^ a 6 1cB ~8P 1TQ ~59 1Wx So 1On ~7d 1Yd ~5j 2 ~59\nO LH C o 4K a 6 1cB ~8P 1TQ ~59 1Wx bb 1On ~7d 1Yd ~5j 2 ~59\nO LE C o 4K a 6 1cB ~8P 1TQ ~59 1Wx 8O 1On ~7d 1Yd ~5j 2 ~59\nO LE C ^ a 6 1cB ~8P 1TQ ~59 1Wx RI 1On ~7d 1Yd ~5j 2 ~59\nO LE C o 4K a 6 1cB ~8P 1TQ ~59 1Wx ns 1On ~7d 1Yd ~5j 2 ~59\nO LE C ^ a 6 1cB ~8P 1TQ ~59 1Wx i2 1On ~7d 1Yd ~5j 2 ~59\nO LE C ^ a 6 1cB ~8P 1TQ ~59 1Wx Rb 1On ~7d 1Yd ~5j 2 ~59\nO LE C ^ a 6 1cB ~8P 1TQ ~59 1Wx RD 1On ~7d 1Yd ~5j 2 ~59\nO LE C ^ a 6 1cB ~8P 1TQ ~59 1Wx Rj 1On ~7d 1Yd ~5j 2 ~59\nO LE C ^ a 6 1cB ~8P 1TQ ~59 1Wx Ra 1On ~7d 1Yd ~5j 2 ~59\nO LE C o 4K a 6 1cB ~8P 1TQ ~59 1Wx R2 1On ~7d 1Yd ~5j 2 ~59\nO LE C ^ a 6 1cB ~8P 1TQ ~59 1Wx QT 1On ~7d 1Yd ~5j 2 ~59\nO LE C o 4K a 6 1cB ~8P 1TQ ~59 1Wx 9J 1On ~7d 1Yd ~5j 2 ~59\nO LE C o 4K a 6 1cB ~8P 1TQ ~59 1Wx KQ 1On ~7d 1Yd ~5j 2 ~59\nO LE C ^ a 6 1cB ~8P 1TQ ~59 1Wx Qp 1On ~7d 1Yd ~5j 2 ~59\nO LE C ^ a 6 1cB ~8P 1TQ ~59 1Wx PS 1On ~7d 1Yd ~5j 2 ~59\nO LE C ^ a 6 1cB ~8P 1TQ ~59 1Wx Ps 1On ~7d 1Yd ~5j 2 ~59\nO LE C ^ a 6 1cB ~8P 1TQ ~59 1Wx Pg 1On ~7d 1Yd ~5j 2 ~59\nO LE C ^ a 6 1cB ~8P 1TQ ~59 1Wx OZ 1On ~7d 1Yd ~5j 2 ~59\nO LE C o 4K a 6 1cB ~8P 1TQ ~59 1Wx 5k 1On ~7d 1Yd ~5j 2 ~59\nT LV P = 1C1 1 LW 4 N0 LW LO 5l C ^ a b 1LQ ~59 2 ~59 1On ~bb 1Ml OX 1WA ~bb 1Y6 ~8P 1MU OY 1L2 LS 1MQ ~i2 1P3 ~i3 1Y7 ~8P\nT LV P = 1C2 1 LW 4 N1 LW LO 5l C ^ a b 1LQ ~59 2 ~59 1On ~bb 1Mm OV 1WA ~bb 1Y6 ~8P 1MU OW 1L2 LS 1MQ ~i2 1P3 ~i3 1Y7 ~8P\nT LV P = 1C3 1 LW 4 N2 LW LO 5l C ^ a b 1LQ ~59 2 ~59 1On ~bb 1Ye OT 1WA ~bb 1Y6 ~8P 1MU OU 1L2 LS 1MQ ~i2 1P3 ~i3 1Y7 ~8P\nT LV P = 1C4 1 LW 4 N3 LW LO 5l C ^ a b 1LQ ~59 2 ~59 1On ~bb 1NS OR 1WA ~bb 1Y6 ~8P 1MU OS 1L2 LS 1MQ ~i2 1P3 ~i3 1Y7 ~8P\nT LV P = 1C5 1 LW 4 N4 LW LO 5l C ^ a b 1LQ ~59 2 ~59 1On ~bb 10V OP 1WA ~bb 1Y6 ~8P 1MU OQ 1L2 LS 1MQ ~i2 1P3 ~i3 1Y7 ~8P\nT LV P = 1C6 1 LW 4 N5 LW LO 5l C ^ a c 1LQ ~59 2 ~59 1On ~bb 10Q ON 1Yf ~bb 1WA ~bb 1Y6 ~8P 1MU OO 1L2 LS 1MQ ~i2 1P3 ~i3 1Y7 ~8P\nT LV P = 1C7 1 LW 4 N6 LW LO 5l C ^ a c 1LQ ~59 2 ~59 1On ~bb 1Mx OL 1Yf ~bb 1WA ~bb 1Y6 ~8P 1MU OM 1L2 LS 1MQ ~i2 1P3 ~i3 1Y7 ~8P\nO 9I C ^ o 1 1NE ~bb\nT 5k P = 1Cb 1 5k 3 N8 5k 5l C ^ a 3 1LQ ~59 1KX OJ 2 ~7d o 1 2 ~7d\nO 9I C o 4K a 1 1Ww Nb o 2 1NE ~bb 2 ~59\nT N8 P = 1ig 1 5l 2 Na 5l C q 1Ay - 1ig a 4 1LQ ~59 1L3 OH 1M0 OI 2 ~7d\nO 9I C ^\nT 5k P = 1Ce 1 5k 3 Nc 5k 5l C ^ a 6 1LQ ~59 1KX OE 10T 9J 1MG OF 1MF OF 2 ~7d o 1 2 ~7d\nO 9I C ^ a 1 1Ww OD o 3 1NE ~bb 2 ~59 1Nr ~9J\nT Nc P = 1Cf 1 5l 2 Ne 5l C q 1Ay - 1Cf a 4 1LQ ~59 1L3 OB 1M0 OC 2 ~7d\nO Lb C ^ o 1 1XQ OA\nO Lb C ^ o 1 1XQ Oz\nT 5k P = 1Cj 1 5l 2 Nh 5l C ^ a b 1LQ ~59 2 ~59 10T KS 1L2 Or 1Ww Os 1KY Ot 1MS Ou 113 Ov 1Mk Ow 1L3 Ox 1M0 Oy\nT 5k P = SK 1 LO 3 Ni LO 5l C o 4K a p 1LQ ~59 2 ~59 1On ~bb 1p1 O4 11W O5 eD O6 1PW O7 In O8 1OO O9 13u Oa 13k Ob 1OX Oc 1OV Od 1PU Oe 1OQ Of 1P2 Og 1OP Oh 13D Oi 1P5 Oj 13o Ok 1PV Ol 1P8 Om 1P9 On 1Yf ~bb 1WA ~bb\nT 5k P = O2 1 Ni 4 Nj Ni LO 5l C o 4K a 7 1LQ ~59 2 ~59 1On ~bb 13o O2 1P8 O3 1Yf ~bb 1WA ~bb\nT 5k P = O3 1 Ni 4 Nk Ni LO 5l C o 4K a b 1LQ ~59 2 ~59 1On ~bb 1Yg NR 1SI NS AP NT 1Yh NU 1Yi NV 1P8 NW 1Yf ~bb 1WA ~bb\nT 5k P = 1Ck 1 5k 3 Nl 5k 5l C ^ a 3 1LQ ~59 1KZ NQ 2 ~7d o 1 2 ~7d\nT Nl P 1Yj 4L 1 5l 2 Nm 5l C ^ a 8 1LQ ~59 2 ~59 a ~8O SK Ni O3 Nk O2 Nj 1L3 NO 1M0 NP\nO LE C ^ a 6 1cB ~8P 1TQ ~59 1Wx oB 1On ~7d 1Yd ~5j 2 ~59\nO LE C o 4K a 6 1cB ~8P 1TQ ~59 1Wx Nu 1On ~7d 1Yd ~5j 2 ~59\nT Nl P 1Yk nF 1 5l 2 Np 5l C ^ a 7 1LQ ~59 2 ~59 a ~8O 1dt Nn 14 No 1L3 Ns 1M0 Nt\nO 9I C ^ o 1 2 ~59\nO 9I C ^ o 2 2 ~59 1Nr ~9J\nO 6l D ^\nO 6l D ^\nT 5k P 1Yl 14 1 5l 2 Nu 5l C ^ a l 1KY Nv 11d Nw 1jk Nx 1Rr Ny 1Rs Nz 1Ym NA 1RH NB 1Yn NC 1Yo ND 1Rb NE 1Rc NF 1Nq NG sH NH nF NI ck NJ 1Yp NK 1Yq NL 1Yr NM 1Ys NN 2 ~59 1LQ ~59\nO 6R C d D ^\nO 6R C d D ^\nO 6G C d D ^ o 1 1L4 ~7d\nO 6G C d D ^\nO 6G C d D ^\nO 6G C d D ^\nO 6G C d D ^\nO 6G C d D ^\nO 6G C d D ^\nO 6G C d D ^ o 1 2 ~7d\nO 6G C d D ^ o 1 2 ~7d\nO 72 C d D ^ Y 7c\nO 6v D ^ o 1 2 ~59\nO 6v D ^ o 1 2 ~59\nO 6v D ^ o 1 2 ~59\nO 6v D ^ o 1 2 ~59\nO 6l D ^\nO 6l D ^\nO 6l D ^ o 1 2 ~7d\nO 6l D ^\nO 6l D ^\nO 9I C ^ o 1 1NB ~bb\nO 9F o 2 2 ~7d 1Ns O1\nO 9F o 2 2 ~7d 1Ns O0\nO 9F o 2 2 ~7d 1Ns NZ\nO 9F o 2 2 ~7d 1Ns NY\nO 9F o 2 2 ~7d 1Ns NX\nO 9I C ^ a 1 1Nz ~8P\nO 9I C q 1Ay O3 1Yi a 1 1Nz ~8P\nO 9I C q 1Ay O3 1Yh a 1 1Nz ~8P\nO 9I C q 1Ay O3 AP a 1 1Nz ~8P\nO 9I C q 1Ay O3 1SI a 1 1Nz ~8P\nO 9I C q 1Ay O3 1Yg a 1 1Nz ~8P\nO 9I C ^ a 1 1Nz ~8P\nO 9I C ^ a 1 1Nz ~8P\nO 9F Z k ~7d o 2 2 ~7d 1Ns Oq\nO 9F Z k ~7d o 2 2 ~7d 1Ns Op\nO 9I C ^ a 1 1Nz ~8P\nO 9F Z k ~7d o 2 2 ~7d 1Ns Oo\nO 9I C ^ a 1 1Nz ~8P\nO 9I C ^ a 1 1Nz ~8P\nO 9I C ^ a 1 1Nz ~8P\nO 9I C ^ a 1 1Nz ~8P o 1 1NE ~bb\nO 9I C ^ a 1 1Nz ~8P\nO 9I C ^ a 1 1Nz ~8P o 1 1NE ~bb\nO 9I C ^ a 1 1Nz ~8P o 1 1NE ~bb\nO 9I C ^ a 1 1Nz ~8P o 1 1NE ~bb\nO 9I C ^ a 1 1Nz ~8P\nO 9I C ^ a 1 1Nz ~8P\nO 9I C ^ a 1 1Nz ~8P o 1 1NE ~bb\nO 9I C ^ a 1 1Nz ~8P\nO 9I C ^ a 1 1Nz ~8P\nO 9I C ^ a 1 1Nz ~8P\nO 9I C ^ a 1 1Nz ~8P\nO 9I C ^ a 1 1Nz ~8P\nO 9I C q 1Ay SK 1PW a 1 1Nz ~8P\nO 9I C q 1Ay SK 11W a 1 1Nz ~8P\nO 9I C q 1Ay SK 1p1 a 1 1Nz ~8P\nO 9I C ^\nO 9I C ^\nO 9I C ^\nO 9I C ^\nO 9I C ^\nO 9I C ^\nO 6l D ^\nO 6l D ^\nO 9I C q 1Ay - 1Ci o 1 2 ~59\nO 9I C q 1Ay - 1Ch o 1 2 ~59\nO 6l D ^\nO 6l D ^\nO 9I C q 1Ay - 1XF\nO bz C t 1NP F OG\nO 9I C ^\nO 9I C q 1Ay 1Ce 1KX o 2 1NE ~bb 2 ~59\nO 6l D ^\nO 6l D ^\nO bz C t 1NP F OK\nO 9I C q 1Ay 1Cb 1KX\nO 9I C ^ a 1 1Nz ~8P o 1 1NE ~bb\nO 9I C q 1Ay 1Yt 1Yu o 1 1NB ~bb\nO 9I C ^ a 1 1Nz ~8P\nO 9I C q 1Ay 1Yt 1Yu o 1 1NB ~bb\nO 9I C ^ a 1 1Nz ~8P\nO 9I C q 1Ay 1Yt 1Yu o 1 1NB ~bb\nO 9I C ^ a 1 1Nz ~8P\nO 9I C q 1Ay 1Yt 1Yu o 1 1NB ~bb\nO 9I C ^ a 1 1Nz ~8P\nO 9I C q 1Ay 1Yt 1Yu o 1 1NB ~bb\nO 9I C ^ a 1 1Nz ~8P\nO 9I C q 1Ay 1Yt 1Yu o 1 1NB ~bb\nO 9I C ^ a 1 1Nz ~8P\nO 9I C q 1Ay 1Yt 1Yu o 1 1NB ~bb\nT hS P = 4f 1 P0 4 OZ P0 P1 5l C ^ a a 1LQ ~59 1On ~bb 1Yv P2 1Yw P3 1Yx P4 1Yy P5 1MU P6 2 ~7d 1MQ ~i2 1P3 ~i3\nT hS P = 4e 1 P1 3 P0 P1 5l C ^ a 8 1LQ ~59 1On ~bb 1Yv Pc 1Yz Pd 1MU Pe 2 ~7d 1MQ ~i2 1P3 ~i3\nT hS P = 4d 1 5l 2 P1 5l C ^ a 8 1LQ ~59 1On ~bb 1Yz P8 1MU P9 1Nq Pa 2 ~7d 1MQ ~i2 1P3 ~i3\nO 9I C ^ o 1 2 ~59\nO 9I C ^ a 1 1Nz ~8P o 1 2 ~59\nO 9I C ^ a 1 1Nz ~8P o 2 1NE ~bb 2 ~59\nO 9I C ^ o 1 2 ~59\nO b0 F P7 a 5 1LQ ~59 1 ~59 1MO ~59 2 ~7d RL ~9J\nO 9I C q 3J 4f 1MU\nO 9I C ^ a 1 1Nz ~8P\nO b0 F Pb a 5 1LQ ~59 1 ~59 1MO ~59 2 ~7d RL ~9J\nO b0 F Aj a 4 1LQ ~59 1 ~59 1MO ~59 2 ~59\nO 9I C q 3J 4d 1MU\nO 9I C ^ a 1 1Nz ~8P o 1 2 ~59\nO 9I C ^\nO b0 F Pf a 5 1LQ ~59 1 ~59 1MO ~59 2 ~7d RL ~9J\nO 9I C q 3J 4e 1MU\nT hS P = 4j 1 Ph 4 Pg Ph zP 5l C ^ a a 1LQ ~59 1On ~bb 1PP Pi 1YA Pj 1YB Pk eD Pl 1MU Pm 2 ~7d 1MQ ~i2 1P3 ~i3\nT hS P = 4h 1 zP 3 Ph zP 5l C ^ a 8 1LQ ~59 1On ~bb 1PP Po 1L7 Pp 1MU Pq 2 ~7d 1MQ ~i2 1P3 ~i3\nO 9I C ^ o 1 2 ~59\nO 9I C ^ a 1 1Nz ~8P o 1 2 ~59\nO 9I C ^ a 1 1Nz ~8P o 2 1NE ~bb 2 ~59\nO 9I C ^ o 1 2 ~59\nO b0 F Pn a 5 1LQ ~59 1 ~59 1MO ~59 2 ~7d RL ~9J\nO 9I C q 3J 4j 1MU\nO 9I C ^ a 1 1Nz ~8P o 1 2 ~59\nO 9I C ^\nO b0 F Pr a 5 1LQ ~59 1 ~59 1MO ~59 2 ~7d RL ~9J\nO 9I C q 3J 4h 1MU\nT hS P = tY 1 zL 8 Ps zL zM zN zO zP zQ 5l C ^ a s 1LQ ~59 2 ~59 1L2 Pt 1XA Pu 11d Pv 1NF Pw 1L9 Px 1L7 Py 11b Pz 1Mf PA 1KY PB 1NM PC wg PD 1Rb PD 1YC PE 1YD PF 11e PG 11c PH 1NH PI 1Nn PJ 1Nj PK 11n PL 113 PM 1Mk PN 1L3 PO 1M0 PP 1MQ ~i2 1P3 ~i3\nO 9I C ^ o 1 2 ~59\nO 9I C ^\nO 9I C ^\nO 9I C ^ o 1 1NE ~bb\nO 9I C ^\nO 9I C ^\nO 9I C ^\nO 9I C ^\nO 9I C ^ o 1 1NB ~bb\nO b0 F PR a 5 1LQ ~59 1 ~59 1MO ~59 2 ~59 RL ~9J\nO 9I C ^ o 1 2 ~59\nO 9I C ^ o 2 1NE ~bb 2 ~59\nO 9F o 1 1Ns PQ\nO 9I C ^\nO 9I C ^\nO 9I C ^ o 1 2 ~59\nO 9I C ^ o 1 2 ~59\nO 9I C ^ o 1 2 ~59\nO 9I C ^\nO 9I C ^\nO 9I C ^\nO 6l D ^\nO 6l D ^\nO 9I C q tH tY 1YD o 1 2 ~59\nO 9I C q tH tY 1NM o 1 2 ~59\nT 5k P = tX 1 9J 3 PS 9J 5l C ^ a y 1LQ ~59 2 ~59 1L2 PT 1XA PU 1YE PV 1YF PW 1YG PX 1NM PY 1NL PZ 1YH Q0 wg Q1 1MS Q2 11c Q3 1KY Q4 10L Q5 10M Q6 10K Q7 10J Q8 10N Q9 10O Qa 10R Qb 117 Qc 113 Qd 10S Qe 114 Qf 112 Qg 1YI Qh 11f Qi 11q Qj 11n Qk 11g Ql 1L3 Qm 1M0 Qn 1L5 ~7d\nO 9I C ^ o 3 1NB ~bb 1NE ~bb 2 ~59\nO 9I C ^ o 1 2 ~59\nO 9I C ^ o 1 2 ~59\nO 9I C ^ o 2 1NE ~bb 2 ~59\nO 9I C ^ o 1 2 ~59\nO b0 F Qo a 5 1LQ ~59 1 ~59 1MO ~59 2 ~7d RL ~9J\nO 9I C ^ o 3 1NB ~bb 1NE ~bb 2 ~59\nO 9I C ^ o 2 1NE ~bb 2 ~59\nO 9I C ^ o 1 2 ~59\nO 9I C ^\nO 9I C ^ o 2 1NB ~bb 2 ~59\nO 9I C ^\nO 9I C ^ o 1 2 ~59\nO 9I C ^ o 1 2 ~59\nO 9I C ^ o 1 2 ~59\nO 9I C ^ o 1 2 ~59\nO 9I C ^ o 1 2 ~59\nO 9I C ^ o 1 2 ~59\nO 9I C ^ o 1 2 ~59\nO 9I C ^ o 1 2 ~59\nO 9I C ^ o 1 2 ~59\nO 9I C ^ o 1 2 ~59\nO 9I C ^ o 1 2 ~59\nO 9I C ^ o 1 2 ~59\nO 9I C ^ o 1 2 ~59\nO 9I C ^ o 1 2 ~59\nO 9I C ^ o 1 2 ~59\nO 9I C ^ o 1 2 ~59\nO 9I C ^ o 1 2 ~59\nO 6l D ^\nO 6l D ^\nO 9I C q tH tX 1NM o 1 1NE ~bb\nT 5k P 1YJ 3F 0 9J 3 Qp 9J 5l C o 15 a v 1KY Qq 10J Qr 10K Qs 10L Qt 10M Qu 10O Qv 10N Qw 1L7 Qx 1L2 Qy 113 Qz 1Mk QA 11n QB 11e QC 11c QD 1NM QE 1LO QF 1MS QG 1NG QH 1Nn QI 1NH QJ 1NI QK 1NK QL 1NJ QM 1NL QN 1Nj QO wg QP 1Ni QQ 1YK QR 1L3 QS 2 ~59 1L5 ~7d\nO 6R C d D ^\nO 6R C d D ^\nO 6R C d D ^\nO 6R C d D ^\nO 6R C d D ^\nO 6R C d D ^\nO 6R C d D ^\nO 6R C d D ^\nO 6R C d D ^\nO 6R C d D ^\nO 6R C d D ^\nO 6R C d D ^\nO 6R C d D ^\nO 6R C d D ^\nO 72 C d D ^ Y 7c o 1 1L4 ~59\nO 6G C d D ^ o 2 2 ~7d 1L4 ~7d\nO 6G C d D ^ o 1 1L4 ~7d\nO 6G C d D ^\nO 6G C d D ^\nO 6G C d D ^\nO 6G C d D ^ o 2 2 ~7d 1L4 ~7d\nO 6G C d D ^ o 2 2 ~7d 1L4 ~7d\nO 6G C d D ^ o 2 2 ~7d 1L4 ~7d\nO 6G C d D ^ o 2 2 ~7d 1L4 ~7d\nO 6G C d D ^ o 1 1L4 ~7d\nO 6G C d D ^ o 1 1L4 ~7d\nO 6G C d D ^ o 1 1L4 ~7d\nO 6G C d D ^\nO 6l D ^ o 1 2 ~7d\nT hS P = vY 1 QU 3 QT QU 5l C ^ a a 1LQ ~59 2 ~59 1Nq QV 1YL QW 1YM QX 1MU QY 1L3 QZ 1M0 R0 1MQ ~i2 1P3 ~i3\nT hS P = m3 1 5l 2 QU 5l C ^ a 5 1LQ ~59 2 ~59 1On ~bb 1MQ ~i2 1P3 ~i3\nO b0 F Aj a 4 1LQ ~59 1 ~59 1MO ~59 2 ~59\nO 9I C ^ o 1 2 ~59\nO 9I C ^ a 1 1Nz ~8P o 1 2 ~59\nO b0 F R1 a 5 1LQ ~59 1 ~59 1MO ~59 2 ~7d RL ~9J\nO 6l D ^\nO 6l D ^\nO 9I C q vU vY 1MU\nT hS P = vX 1 QU 3 R2 QU 5l C ^ a a 1LQ ~59 2 ~59 1Nq R3 1P8 R4 1P9 R5 1MU R6 1L3 R7 1M0 R8 1MQ ~i2 1P3 ~i3\nO b0 F Aj a 4 1LQ ~59 1 ~59 1MO ~59 2 ~59\nO 9I C ^ o 1 2 ~59\nO 9I C ^ a 1 1Nz ~8P o 1 2 ~59\nO b0 F R9 a 5 1LQ ~59 1 ~59 1MO ~59 2 ~7d RL ~9J\nO 6l D ^\nO 6l D ^\nO 9I C q vU vX 1MU\nT hS P = 4w 1 Rb 7 Ra Rb zN zO zP zQ 5l C ^ a 7 1LQ ~59 1On ~bb 11b Rc 1L7 Rd 2 ~7d 1MQ ~i2 1P3 ~i3\nT hS P = 4t 1 zO 3 Rb zO 5l C ^ a a 1LQ ~59 1On ~bb 1L2 Re 1L9 Rf 1KY Rg 1Nq Rh 1YN Ri 2 ~7d 1MQ ~i2 1P3 ~i3\nO 9I C ^\nO 9I C ^\nO 9I C ^\nO 9I C ^\nO 9I C ^\nO b0 F Aj a 4 1LQ ~59 1 ~59 1MO ~59 2 ~59\nO 6v D ^\nT hS P = 4v 1 Rb 8 Rj Rb Rk zN zO zP zQ 5l C ^ a 8 1LQ ~59 1On ~bb 1YO Rl 11b Rm 1L7 Rn 2 ~7d 1MQ ~i2 1P3 ~i3\nT hS P = 1p 1 zN 6 Rk zN zO zP zQ 5l C ^ a m 1LQ ~59 2 ~59 1On ~bb 10K Rp 10J Rq 10O Rr 10N Rs 10L Rt 1YO Ru 10S Rv 1Mi Rv 1PZ Rw 113 Rx 1Mk Rx 117 Ry 1Mb Rz 119 RA 1Mj RA 1YP RB 1L5 ~7d 1MQ ~i2 1P3 ~i3\nO b0 F Ro a 5 1LQ ~59 1 ~59 1MO ~59 2 ~7d RL ~9J\nO 9I C ^\nO 9I C ^\nO 9I C q 3J 4v 1YO\nO 9I C ^\nO 9I C ^\nO 9I C ^\nO 9I C ^\nO 9I C ^\nO b0 F RC a 5 1LQ ~59 1 ~59 1MO ~59 2 ~59 RL ~9J\nO 9I C ^\nO 9I C ^ o 1 2 ~59\nO 9I C ^\nO 9I C ^\nO 9I C ^\nO 9I C ^\nO 9I C ^ o 1 2 ~59\nO 9I C q 3J 1p 1YO o 1 2 ~59\nT hS P = 4u 1 Rb 8 RD Rb Rk zN zO zP zQ 5l C ^ a 8 1LQ ~59 1On ~bb 1YO RE 11b RF 1L7 RG 2 ~7d 1MQ ~i2 1P3 ~i3\nO b0 F RH a 5 1LQ ~59 1 ~59 1MO ~59 2 ~7d RL ~9J\nO 9I C ^\nO 9I C ^\nO 9I C q 3J 4u 1YO\nT 5k P 1YQ 3D 0 5l 2 RI 5l C o 15 a H 1KX RJ 1KY RK 1L5 ~7d 1KZ RL 10J RM 10K RN 10L RO 10M RP 10O RQ 10N RR 1L7 RS 1L2 RT 1L9 RU 10R RV 110 RW 1La RX 11d RY 11e RZ 11c S0 11b S1 11f S2 11l S3 1Nk S4 1YR S5 1Nj S6 1Rb S7 wg S8 Rh S9 1Nm Sa 1YS Sb cc Sc 1Nl Sd 1Nn Se 1YT Sf 1MS Sg 12r Sh 1Ni Si 1No Sj 1YU Sk 1LO Sl 1Nq Sm 1YV Sn 2 ~59\nO 7c C b S RI o 1 1LQ ~7d\nO 6R C d D ^\nO 6R C d D ^\nO 6R C d D ^\nO 6R C d D ^\nO 6R C d D ^\nO 6R C d D ^\nO 6R C d D ^\nO 6R C d D ^\nO 6R C d D ^\nO 6R C d D ^\nO 6R C d D ^\nO 6R C d D ^\nO 6R C d D ^\nO 6R C d D ^\nO 6R C d D ^\nO 6R C d D ^\nO 6R C d D ^\nO 6R C d D ^\nO 6R C d D ^\nO 6R C d D ^\nO 6G C d D ^ Y 7c o 1 1L4 ~7d\nO 6G C d D ^ Y 7c o 1 1L4 ~7d\nO 6G C d D ^ Y 7c o 1 1L4 ~7d\nO 6G C d D ^ Y 7c o 1 1L4 ~7d\nO 6G C d D ^ Y 7c o 1 1L4 ~7d\nO 6G C d D ^ Y 7c o 1 1L4 ~7d\nO 6G C d D ^ Y 7c o 1 1L4 ~7d\nO 6G C d D ^ Y 7c o 1 1L4 ~7d\nO 6G C d D ^ Y 7c o 1 1L4 ~7d\nO 6G C d D ^ Y 7c o 1 1L4 ~7d\nO 6G C d D ^ Y 7c o 1 1L4 ~7d\nO 6G C d D ^ Y 7c o 1 1L4 ~7d\nO 6G C d D ^ Y 7c o 1 1L4 ~7d\nO 6G C d D ^ Y 7c o 1 1L4 ~7d\nO 6G C d D ^ Y 7c o 1 1L4 ~7d\nO 6G C d D ^ Y 7c o 1 1L4 ~7d\nO 6G C d D ^ Y 7c o 1 1L4 ~7d\nO 6G C d D ^ Y 7c o 1 1L4 ~7d\nO 72 C d D ^ Y 7c\nO 6l D ^ Z k ~7d\nT hS P = 4z 1 Sp 8 So Sp Sq zN zO zP zQ 5l C ^ a 5 1LQ ~59 2 ~59 1On ~bb 1MQ ~i2 1P3 ~i3\nT hS P = 4y 1 Sq 7 Sp Sq zN zO zP zQ 5l C ^ a b 1LQ ~59 2 ~59 1On ~bb 11d Su 1L7 Sv 11b Sw 1Ni Sx cc Sy Rh Sz 1MQ ~i2 1P3 ~i3\nT hS P = 4i 1 zP 3 Sq zP 5l C ^ a 7 1LQ ~59 1On ~bb 1Ni Sr 1MU Ss 2 ~7d 1MQ ~i2 1P3 ~i3\nO 9I C ^ a 1 1Nz ~8P\nO b0 F St a 5 1LQ ~59 1 ~59 1MO ~59 2 ~7d RL ~9J\nO 9I C q 3J 4i 1MU\nO 9I C ^ a 1 1Nz ~8P\nO 9I C ^\nO 9I C ^\nO 9I C ^\nO 9I C ^ o 2 1NE ~bb 2 ~59\nO 9I C ^ o 1 2 ~59\nT hS P = 4A 1 Sp 8 SA Sp Sq zN zO zP zQ 5l C ^ a f 1LQ ~59 2 ~59 1On ~bb 11e SB 11c SC 1Nl SD 1Nk SE 1Nj SF 1No SG 1Nm SH 1Nn SI 12r SJ 11f SK 1MQ ~i2 1P3 ~i3\nO 9I C ^ a 1 1Nz ~8P\nO 9I C ^ a 1 1Nz ~8P\nO 9I C ^ a 1 1Nz ~8P o 1 2 ~59\nO 9I C ^ o 1 2 ~59\nO 9I C ^ o 1 2 ~59\nO 9I C ^ o 1 2 ~59\nO 9I C ^ o 1 2 ~59\nO 9I C ^ o 2 1NE ~bb 2 ~59\nO 9I C ^ o 1 2 ~59\nO 9I C ^\nT hS P = 4r 1 Rk 7 SL Rk zN zO zP zQ 5l C ^ a e 1LQ ~59 2 ~59 1On ~bb cd SM 1Rj SN 12r SO 1Nn SP 1Nj SQ 11n SR 11g SS 11s ST 11q SU 1MQ ~i2 1P3 ~i3\nO 9I C ^ a 1 1Nz ~8P o 1 2 ~59\nO 9I C ^ a 1 1Nz ~8P o 1 2 ~59\nO 9I C ^ o 1 2 ~59\nO 9I C ^ o 1 2 ~59\nO 9I C ^ o 1 2 ~59\nO 9I C ^\nO 9I C ^\nO 9I C ^\nO 9I C ^\nT hS P = 4q 1 5l 2 SV 5l C ^ a 8 1LQ ~59 1On ~bb 10T SW 1MU SX 1Nq SY 2 ~7d 1MQ ~i2 1P3 ~i3\nO 9I C ^ a 1 1Nz ~8P\nO b0 F T5 a 5 1LQ ~59 1 ~59 1MO ~59 2 ~7d RL ~9J\nO b0 F SZ a 5 1LQ ~59 1 ~59 1MO ~59 2 ~59 RL ~9J\nT 5k P = 4n 1 Aj 3 SZ Aj 5l C ^ a 8 1LQ ~59 2 ~59 1On ~bb 1KX T0 1KY T1 1MS T2 11d T3 RL ~9J\nO bz C t 1NP F T4\nO 9I C ^ o 1 1NB ~bb\nO 9I C ^\nO 9I C ^ o 1 1NB ~bb\nO 9I C q 3J 4n 1KX o 1 1NB ~bb\nO 9I C q 3J 4q 1MU\nT hS P = 4c 1 T7 3 T6 T7 5l C ^ a 9 1LQ ~59 1On ~bb 1YA T8 1YB T9 eD Ta 1MU Tb 2 ~7d 1MQ ~i2 1P3 ~i3\nT hS P = 4b 1 5l 2 T7 5l C ^ a 8 1LQ ~59 1On ~bb 1YW Td 1MU Te 1Nq Tf 2 ~7d 1MQ ~i2 1P3 ~i3\nO 9I C ^ a 1 1Nz ~8P o 1 2 ~59\nO 9I C ^ a 1 1Nz ~8P o 2 1NE ~bb 2 ~59\nO 9I C ^ o 1 2 ~59\nO b0 F Tc a 5 1LQ ~59 1 ~59 1MO ~59 2 ~7d RL ~9J\nO 9I C q 3J 4c 1MU\nO 9I C ^ a 1 1Nz ~8P\nO b0 F Tg a 5 1LQ ~59 1 ~59 1MO ~59 2 ~7d RL ~9J\nO b0 F Aj a 4 1LQ ~59 1 ~59 1MO ~59 2 ~59\nO 9I C q 3J 4b 1MU\nT hS P = 4a 1 5l 2 Th 5l C ^ a 7 1LQ ~59 1On ~bb 1L5 Ti 1MU Tj 2 ~7d 1MQ ~i2 1P3 ~i3\nO 9I C ^ a 1 1Nz ~8P\nO b0 F Tk a 5 1LQ ~59 1 ~59 1MO ~59 2 ~7d RL ~9J\nO 9I C q 3J 4a 1MU\nO bz C t 1NP F Ts\nO b0 F Tr\nO 9I C ^ a 1 1NO Tq o 1 1NB ~bb\nO b0 F Tp\nO 9I C q 1Ay 1Bx 1MV\nO 9I C q 1Ay 1Bx 1Y8\nO 9I C q 1Ay 1Bx 1Nq\nO 9I C q 1Ay 1Bx 1KX\nO 9I C ^ o 1 1NB ~bb\nO 9I C ^\nO 9I C ^\nO 9I C ^\nO 9I C ^\nO 9I C ^\nO 9I C ^ o 1 1NB ~bb\nO 6l D ^\nO 6l D ^\nO b0 F TD\nO 9I C q 1Ay Nw 1MV o 1 1NB ~bb\nO 9I C ^ o 1 1NB ~bb\nO 6l D ^\nO 6l D ^\nO b0 F TK\nO b0 F TJ\nO 9I C q 1Ay 1Bk 1MV o 1 1NB ~bb\nO 9I C q 1Ay 1Bk 1Nq a 1 1NO TL o 2 1NB ~bb 2 ~59\nO 9I C q 1Ay 1Bk 1Nq o 1 2 ~59\nO 9I C ^\nO 9I C ^ o 1 1NB ~bb\nO 9F o 2 2 ~7d 1Ns TR\nO 9F o 2 2 ~7d 1Ns TQ\nO 9I C q 1Ay 1Bj 1Y5\nO 9I C q 1Ay 1Bj 1WB\nO 9I C q 1Ay - 1Bi o 1 2 ~59\nO 9I C ^ o 1 1NB ~bb\nO 9I C ^\nO 9I C ^\nO 9I C ^\nO 9I C ^\nO 9I C ^\nO 9I C ^ o 1 1NB ~bb\nO 9I C ^\nO 9I C ^\nO 9I C ^ o 1 1NB ~bb\nO 6l D ^ I k ~9J\nO 6l D ^ I k ~7d\nO 9I C ^ a 1 1NO U6 o 1 1NB ~bb\nO 9I C q 1Ay 1Bd 11d\nO 9I C ^\nO 9I C ^\nO 9I C ^ a 1 1NO Ua o 1 1NB ~bb\nO 9I C q 1Ay 1Bc 1Y4\nO 9I C ^ o 1 1NB ~bb\nO 9I C ^\nO 6l D ^ I k ~9J\nO 6l D ^ I k ~7d\nO 9I C ^ o 2 1NB ~bb 1Nr ~9J\nO 9I C ^ a 1 1NO Up o 1 1NB ~bb\nO 9I C ^\nO 9I C ^\nO 9I C ^ o 1 1NB ~bb\nO 9I C ^\nO 9I C ^\nO 9I C ^\nO 6l D ^ I k ~9J\nO 6l D ^ I k ~7d\nO 9I C q 1Ay 1Bb 11d\nO 9I C ^ o 2 1NB ~bb 1Nr ~9J\nO 9I C ^\nO 9I C ^\nO 9I C ^\nO 9I C ^\nO 9I C ^ a 1 1NO UD o 1 1NB ~bb\nO 9I C ^\nO 9I C ^ o 1 2 ~59\nO 9I C ^\nO 9I C ^\nO 9I C ^\nO 9I C ^ o 1 1NB ~bb\nO 9I C ^\nO 9I C q 1Ay 1Ba 11d\nO 9I C ^ o 1 1Nr ~9J\nO 9I C ^\nO 9I C ^\nO 9I C ^\nO 9I C ^ o 1 1NB ~bb\nO 9I C ^\nO 9I C ^\nO 9I C ^ o 1 1NB ~bb\nO 6l D ^ I k ~9J\nO 9F o 2 2 ~7d 1Ns UU\nO 9F o 2 2 ~7d 1Ns UT\nO 9I C ^ o 2 1NB ~bb 1Nr ~9J\nO 9I C ^\nO 9I C ^\nO 6l D ^\nO 9I C q 1Ay 1B8 1Wt\nO 9I C q 1Ay 1B8 1Nc\nO 9I C ^\nO 9I C ^\nO 9I C ^\nO 6l D ^\nO 9I C ^\nO 9I C ^\nO 9I C ^\nO 6l D ^\nO 9I C ^\nO 9I C ^\nO 9I C ^\nO 9I C ^\nO 9I C ^\nO 6l D ^\nO 9I C ^ o 2 1NB ~bb 1Nr ~9J\nO 9I C ^\nO 6l D ^ I k ~9J\nO 9I C ^ o 1 2 ~59\nO 9I C ^\nO 9I C ^\nO 9I C ^\nO 6l D ^\nO 6l D ^\nO 9I C ^\nO 6l D ^\nO 6l D ^\nO 9I C ^ o 2 1NE ~bb 1Nr ~9J\nO 9I C ^\nO 9I C ^\nO 9I C ^\nO 9I C ^\nO 9I C ^\nO 9I C ^\nO 6v D ^\nO 6v D ^\nO 6v D ^\nO 6v D ^\nO 6v D ^\nO 6v D ^\nO 6v D ^\nO 9I C q 1Ay - 1AZ o 1 2 ~59\nO 9I C q 1Ay - 1AY o 1 2 ~59\nO 9I C q 1Ay - 1AX o 1 2 ~59\nO 9I C q 1Ay - To a 1 1NO VD o 2 1NB ~bb 2 ~59\nO 9I C q 1Ay - To o 1 2 ~59\nO 9I C q 1Ay - MX o 1 2 ~59\nO 9I C q 1Ay - 5x o 1 2 ~59\nO 9I C q 1Ay - 1jA o 1 2 ~59\nO 9I C q 1Ay - Ss o 1 2 ~59\nO 9I C q 1Ay - 1AW o 1 2 ~59\nO 9I C q 1Ay - 1AV o 1 2 ~59\nO 9I C q 1Ay - 1AU o 1 2 ~59\nO 9I C q 1Ay - O7 o 1 2 ~59\nO bz C t 1NP F VP\nO 6l D ^\nO 6l D ^\nO 9I C q 1Ay Nv 1KX o 1 1NB ~bb\nO 9I C ^ o 1 1NB ~bb\nO 9I C ^ o 1 1NB ~bb\nO 9I C ^\nO 6l D ^ I k ~9J\nO 9I C ^\nO 9I C ^\nO 9I C ^\nO 9I C ^\nO 9I C ^\nO 9I C ^\nO 9I C ^\nO 9I C ^\nO 9I C ^\nO 9I C ^\nO 9I C ^ a 1 1NO W8 o 1 1NB ~bb\nO 6v D ^ I k ~59\nO 6v D ^ I k VL\nO 6v D ^ I k ~59\nO 9I C q 1Ay 1AR 11d\nO 9I C ^\nO 9I C ^\nO b0 F Wd\nO 6l D ^ I k ~7d\nO 9I C q 1Ay 1AO 1MV\nO 6R C d D ^\nO 6R C d D ^\nO 6R C d D ^\nO 6R C d D ^\nO 6R C d D ^\nO 6R C d D ^\nO 6R C d D ^\nO 6R C d D ^\nO 6R C d D ^\nO 6R C d D ^\nO 6G C d D ^ Y 7c o 2 2 ~7d 1L4 ~7d\nO 6v D ^ I k ~zj Z s\nO 6l D ^ I k zj Z o o 1 2 ~7d\nO 6l D ^ I k ~59 Z d o 1 2 ~7d\nO 6l D ^ I k ~59 Z d o 1 2 ~7d\nO 6l D ^ I k ~59 Z d o 1 2 ~7d\nO 6l D ^ I k ~59 Z d o 1 2 ~7d\nO 6R C d D ^\nO 6R C d D ^\nO 6R C d D ^\nO 6R C d D ^\nO 6R C d D ^\nO 6G C d D ^ Y 7c o 1 1L4 ~7d\nO 6G C d D ^ Y 7c o 1 1L4 ~7d\nO 6G C d D ^ Y 7c o 1 1L4 ~7d\nO 6G C d D ^ Y 7c o 1 1L4 ~7d\nO 72 C d D ^ Y 7c\nO 6v D ^ Z i o 1 2 ~59\nO kA a 2 11W ~59 NL ~59\nO 8N a 9 11W ~59 1M1 WG 1M2 ~59 1M3 ~7d 1M4 ~7d 1M5 ~8O 1M6 ~8P 1M7 ~59 1M8 ~8P\nT 5k P = 45 0 5l 2 WI 5l C q oV - 45 a q 1KX Zc 1KY Zd 1L6 Ze 1KZ Zf 10J Zg 10K Zh 10L Zi 10M Zj 10O Zk 10N Zl 1L7 Zm 113 Zn 1Mk Zo 11n Zp 1L9 Zq 11d Zr 11b Zs 1NF Zt 1NI Zu 1NK Zv 1NJ Zw wg Zx 1Nq Zy 1Ni Zz 2 ~7d 1L5 ~7d o 1 2 ~7d\nO 9I C ^\nT 5k P = 1YX 0 5l 2 WK 5l C q oV - 1YX a c 1KX Z2 1KY Z3 1KZ Z4 10J Z5 10K Z6 10L Z7 10M Z8 10O Z9 10N Za 1YY Zb 2 ~59 1L5 ~7d o 1 1L4 ~59\nT 5k P = 46 0 5l 2 WL 5l C q oV - 46 a h 1KY YM 1KZ YN 1L7 YO 1PP YP 1Po YQ 1YA YR 1YB YS eD YT 1LO YU 1YZ YV 1 YW 1MO YX 1Z0 YY 1Z1 YZ 1Z2 Z0 1Z3 Z1 2 ~7d o 1 2 ~7d\nT 5k P = 47 0 5l 2 WM 5l C q oV - 47 a h 1KY Yw 1KZ Yx 1Po Yy 1YW Yz 1YA YA 1YB YB eD YC 1LO YD 1Z4 YE 1Z5 YF 1 YG 1MO YH 1Z6 YI 1Z7 YJ 1Z8 YK 1Z9 YL 2 ~7d o 1 2 ~7d\nT 5k P = 48 0 5l 2 WN 5l C q oV - 48 a h 1KY Yg 1KZ Yh 1Po Yi 1Yz Yj 1Yv Yk 1Yw Yl 1Yx Ym 1Yy Yn 1LO Yo 1Nq Yp 1Za Yq 1Zb Yr 1 Ys 1MO Yt 1Zc Yu 1Zd Yv 2 ~7d o 1 2 ~7d\nT 5k P = 1Ze 0 5l 2 WO 5l G b C q oV - 1Ze a h 1KX XZ 1KY Y0 1L5 Y1 10T Y2 1KZ Y3 1L0 Y4 1L1 Y5 10J Y6 10K Y7 10L Y8 10M Y9 10O Ya 10N Yb 1MS Yc 1NN Yd 1N7 Ye 2 Yf o 1 1L4 ~59\nT 5k P = sM 0 5l 2 WP 5l C q oV - sM a 8 1KX XS 1KZ XT ur XU 1Zf XV 1Zg XW 1Zh XX 1Zi XY 2 ~59\nT 5k P = 1Zj 0 5l 2 WQ 5l C q oV - 1Zj a h 1KY XC 1KZ XD 1L0 XE 1L1 XF 1Nj XG 1LO XH 1Zk XI 1Zl XJ 1Zm XK 1Zn XL 1Zo XM 1Zp XN 1Zq XO 1Zr XP 1Zs XQ 1Zt XR 2 ~7d o 1 2 ~7d\nO 9I C ^ o 2 1NE ~bb 2 ~59\nO 9I C ^ o 1 2 ~59\nO 9I C ^ o 2 1NE ~bb 2 ~59\nO 9I C ^ o 1 2 ~59\nT 5k P = 1Au 1 5l 2 WV 5l C ^ a j 1LQ ~59 1L2 Xm 1YA Xn 1YB Xo eD Xp 1YZ Xq 1Z2 Xr 1Z1 Xs 1Z0 Xt 1Z4 Xq 1Z8 Xr 1Z7 Xs 1Z6 Xt 1PP Xu 1L7 Xv 1YW Xv 1L3 Xw 1M0 Xx 2 ~7d o 1 2 ~7d\nO 9I C ^ o 1 2 ~59\nT 5k P 1Zu 1Av 0 5l 2 WX 5l C ^ a f 1KY X8 1L5 X9 1KZ Xa 10J Xb 10K Xc 10L Xd 10M Xe 10O Xf 10N Xg 113 Xh 1Mk Xi 11d Xj 1Wy Xk 1WA Xl 2 ~59\nT 5k P = 1Zv 0 5l 2 WY 5l C q oV - 1Zv a 5 1KX X4 1KY X5 1KZ X6 1MS X7 2 ~7d o 1 2 ~7d\nT 5k P = 1Ax 0 5l 2 WZ 5l C q oV - 1Ax a 5 1KX X0 1KY X1 1Mf X2 1MS X3 2 ~7d o 1 2 ~7d\nO 7c C b S WZ o 1 1LQ ~7d\nO 6R C d D ^\nO 6R C d D ^\nO 6G C d D ^ Y 7c o 2 2 ~7d 1L4 ~7d\nO 7c C b S WY o 1 1LQ ~7d\nO 6R C d D ^\nO 6R C d D ^\nO 6G C d D ^ Y 7c o 2 2 ~7d 1L4 ~7d\nO 6R C d D ^\nO 6R C d D ^\nO 6R C d D ^\nO 6R C d D ^\nO 6R C d D ^\nO 6R C d D ^\nO 6R C d D ^\nO 6R C d D ^\nO 6R C d D ^\nO 6R C d D ^\nO 6R C d D ^\nO 6R C d D ^\nO 6v D ^\nO 6l D ^\nO 9I C ^\nO 9I C ^\nO 9I C ^\nO 9I C ^\nO 9F o 2 2 ~7d 1Ns XB\nO 9F o 2 2 ~7d 1Ns XA\nO 9F o 2 2 ~7d 1Ns Xz\nO 9F o 2 2 ~7d 1Ns Xy\nO 9I C ^\nO 9I C ^\nO 6l D ^\nO 6l D ^\nO 9I C q uA 1Au 1Z0\nO 9I C q uA 1Au 1Z1\nO 9I C q uA 1Au 1Z2\nO 9I C q uA 1Au 1YZ\nO 6R C d D ^\nO 6R C d D ^\nO 6R C d D ^\nO 6R C d D ^\nO 6G C d D ^ o 1 1L4 ~7d\nO 6G C d D ^ o 1 1L4 ~7d\nO 6v D ^\nO 6v D ^\nO 6l D ^ o 1 2 ~7d\nO 6l D ^ o 1 2 ~7d\nO 6l D ^ o 1 2 ~7d\nO 6l D ^ o 1 2 ~7d\nO 6l D ^ o 1 2 ~7d\nO 6l D ^ o 1 2 ~7d\nO 6l D ^ o 1 2 ~7d\nO 6l D ^ o 1 2 ~7d\nO 7c C b S WP o 1 1LQ ~7d\nO 6R C d D ^\nO 6G C d D ^ o 2 2 ~7d 1L4 ~7d\nO 6v D ^\nO 6v D ^\nO 6l D ^ o 1 2 ~7d\nO 6l D ^ o 1 2 ~7d\nO 7c C b S WO o 1 1LQ ~7d\nO 6R C d D ^\nO 6R C d D ^\nO 6R C d D ^\nO 6R C d D ^\nO 6R C d D ^\nO 6R C d D ^\nO 6R C d D ^\nO 6R C d D ^\nO 6R C d D ^\nO 6R C d D ^\nO 6R C d D ^\nO 6R C d D ^\nO 6G C d D ^ Y 7c o 1 2 ~7d\nO 6v D ^ I f o 1 2 ~59\nO 6v D ^ I s o 1 2 ~59\nO 6l D ^ I k ~59 o 1 2 ~7d\nO 6R C d D ^\nO 6R C d D ^\nO 6R C d D ^ o 2 2 ~7d 1L4 ~7d\nO 6R C d D ^\nO 6R C d D ^\nO 6G C d D ^ o 1 1L4 ~7d\nO 6G C d D ^ o 1 1L4 ~7d\nO 6G C d D ^ o 1 1L4 ~7d\nO 6G C d D ^ o 1 1L4 ~7d\nO 72 C d D ^ Y 7c\nO 6v D ^\nO 6v D ^\nO 6l D ^\nO 6l D ^\nO 6l D ^\nO 6l D ^ o 1 2 ~7d\nO 6R C d D ^\nO 6R C d D ^\nO 6R C d D ^ o 2 2 ~7d 1L4 ~7d\nO 6R C d D ^\nO 6G C d D ^ o 1 1L4 ~7d\nO 6G C d D ^ o 1 1L4 ~7d\nO 6G C d D ^ o 1 1L4 ~7d\nO 6G C d D ^ o 1 1L4 ~7d\nO 6v D ^\nO 6v D ^\nO 6l D ^\nO 6l D ^\nO 6l D ^\nO 6l D ^ o 1 2 ~7d\nO 6l D ^ o 1 2 ~7d\nO 6l D ^ o 1 2 ~7d\nO 6R C d D ^\nO 6R C d D ^\nO 6R C d D ^\nO 6R C d D ^\nO 6R C d D ^ o 2 2 ~7d 1L4 ~7d\nO 6G C d D ^ o 1 1L4 ~7d\nO 6G C d D ^ o 1 1L4 ~7d\nO 6G C d D ^ o 1 1L4 ~7d\nO 6G C d D ^ o 1 1L4 ~7d\nO 6v D ^\nO 6l D ^\nO 6l D ^\nO 6l D ^\nO 6l D ^ o 1 2 ~7d\nO 6l D ^ o 1 2 ~7d\nO 6l D ^ o 1 2 ~7d\nO 7c C b S WK o 1 1LQ ~7d\nO 6R C d D ^\nO 6R C d D ^\nO 6R C d D ^\nO 6R C d D ^\nO 6R C d D ^\nO 6R C d D ^\nO 6R C d D ^\nO 6R C d D ^\nO 6l D ^ o 1 2 ~7d\nO 7c C b S WI o 1 1LQ ~7d\nO 6R C d D ^\nO 6R C d D ^\nO 6R C d D ^\nO 6R C d D ^\nO 6R C d D ^\nO 6R C d D ^\nO 6R C d D ^\nO 6R C d D ^\nO 6R C d D ^\nO 6R C d D ^\nO 6R C d D ^\nO 6R C d D ^\nO 6R C d D ^\nO 6R C d D ^\nO 6R C d D ^\nO 6R C d D ^\nO 6G C d D ^ Y 7c o 1 1L4 ~7d\nO 6G C d D ^ Y 7c o 1 1L4 ~7d\nO 6G C d D ^ Y 7c o 1 1L4 ~7d\nO 6G C d D ^ Y 7c o 1 1L4 ~7d\nO 6G C d D ^ Y 7c o 1 1L4 ~7d\nO 72 C d D ^ Y 7c\nO 6G C d D ^ Y 7c o 1 1L4 ~7d\nO kA a 2 11W ~59 NL ~59\nO 8N a 9 11W ~59 1M1 ZA 1M2 ~59 1M3 ~7d 1M4 ~7d 1M5 ~8O 1M6 ~8P 1M7 ~59 1M8 ~8P\nT hS P = wa 1 R2 4 ZC R2 QU 5l C ^ a 7 1LQ ~59 2 ~59 1L2 116 1P8 117 1P9 118 1MQ ~i2 1P3 ~i3\nO 9I C ^ o 2 1NE ~bb 2 ~59\nO 9I C ^ o 1 2 ~59\nO 9I C ^ o 2 1NE ~bb 2 ~59\nO 9I C ^ o 2 1NE ~bb 2 ~59\nO 9I C ^ o 2 1NE ~bb 2 ~59\nT 5k P = 1zK 1 5l 2 ZI 5l C ^ a 5 1LQ ~59 1KY 113 1L3 114 1M0 115 2 ~7d o 1 2 ~7d\nO 9I C ^\nO 9I C ^ o 2 1NE ~bb 2 ~59\nO 9I C o 4I o 2 1NE ~bb 2 ~59\nO 9I C ^ o 2 1NE ~bb 2 ~59\nO 9I C ^\nO 9I C ^ o 1 1NE ~bb\nO 9I C ^ o 2 1NE ~bb 2 ~59\nO 9I C ^ o 2 1NE ~bb 2 ~59\nO 9I C ^ o 2 1NE ~bb 2 ~59\nO 9I C ^ o 2 1NE ~bb 2 ~59\nO 9I C ^ o 2 1NE ~bb 2 ~59\nO 9I C ^ o 2 1NE ~bb 2 ~59\nO 9I C ^ o 1 2 ~59\nT 5k P = 1zX 1 5l 2 ZW 5l C ^ a k 1LQ ~59 2 ~59 1On ~bb 1L2 10L 10L 10M 11d 10N 1L7 10O 1KY 10P 1L9 10Q 1Zw 10R 1Zx 10S 1Zy 10T 1Zz 10U 1ZA 10V 1RK 10W Ik 10X Il 10Y pm 10Z 11W 110 1L5 ~7d\nO 9I C ^ o 1 2 ~59\nO 9I C ^ o 1 2 ~59\nO 9I C ^\nO 9I C ^\nT 5k P = 1A2 1 8O 3 101 8O 5l C ^ a 9 1LQ ~59 2 ~59 1Pi 10B 1ZB 10C 1ZC 10D 1ZD 10E p9 10F 1L3 10G 1M0 10H\nO 9I C ^\nT 5k P = 1A4 1 bb 3 103 bb 5l C ^ a g 2 ~59 1On ~bb 1Xk ~bb 1Xl ~9J 1KX 10p 1Xm 10q 1Xn 10r 1KY 10s 1Xo 10t 1LP 10u 1Xp ~bb 1ZE 10v 1ZF 10w 1ZG 10x 1ZH 10y 1LQ ~59\nO 9I C ^\nO 9I C ^ o 1 2 ~59\nT 5k P = 1A8 1 5l 2 106 5l C ^ a 7 1LQ ~59 1L2 10k 1vI 10l 1ZI 10m 1L3 10n 1M0 10o 2 ~7d o 1 2 ~7d\nT 5k P = 1A9 1 5l 2 107 5l C ^ a e 1LQ ~59 2 ~59 1L2 108 1ZJ 109 1ZK 10a 10L 10b 1L6 10c 1zN 10d 1ZL 10e p9 10f pt 10g 1L3 10h 1M0 10i 1L5 ~7d\nO 9I C ^ o 1 1Nr ~9J\nO b0 F 10j a 5 1LQ ~59 1 ~59 1MO ~59 2 ~59 RL ~9J\nO 9I C ^ o 1 2 ~59\nO 9I C ^\nO 9I C ^\nO 9I C ^ o 1 2 ~59\nO 9I C ^ o 1 2 ~59\nO 9I C ^ o 2 2 ~59 1Nr ~9J\nO 9I C ^ o 2 2 ~59 1Nr ~9J\nO 6l D ^\nO 6l D ^\nO 9I C q sM 1A9 1ZJ o 1 2 ~59\nO 9I C ^\nO 9I C ^\nO 9I C ^ o 1 1NE ~bb\nO 6l D ^\nO 6l D ^\nO bz C t 1NP F 10A\nO b0 F 10z a 5 1LQ ~59 1 ~59 1MO ~59 2 ~7d RL ~9J\nO 9I C q tH 1A4 1Xn o 2 1NB ~bb 2 ~59\nO 9I C q tH 1A4 1KY o 2 1NB ~bb 2 ~59\nO 9I C q tH 1A4 1Xo o 2 1NB ~bb 2 ~59\nO 9I C q tH 1A4 1LP o 2 1NB ~bb 2 ~59\nO Jp\nO Jp\nO Jp\nO Jp\nO 9I C q tH 1A4 1Xm o 2 1NB ~bb 2 ~59\nO 9I C q 1ZM 1A4 1KX o 2 1NE ~bb 2 ~59\nO b0 F 10K a 5 1LQ ~59 1 ~59 1MO ~59 2 ~59 RL ~9J\nO b0 F 10J a 5 1LQ ~59 1 ~59 1MO ~59 2 ~7d RL ~9J\nO b0 F 10I a 5 1LQ ~59 1 ~59 1MO ~59 2 ~59 RL ~9J\nO 9I C ^ o 1 2 ~59\nO 9I C ^ o 1 2 ~59\nO 6l D ^\nO 6l D ^\nO 9I C q sM 1A2 1ZC o 1 2 ~59\nO 9I C q sM 1A2 1ZB o 1 1Nr ~9J\nO 9I C q sM 1A2 1Pi o 2 2 ~59 1Nr ~9J\nO 9I C ^ o 2 2 ~59 1Nr ~9J\nO 9I C ^\nO 9I C ^\nO 9I C ^\nO 9I C ^\nO 9I C ^\nO 9F o 2 2 ~7d 1Ns 112\nO 9F o 2 2 ~7d 1Ns 111\nO 6v D ^\nO 6v D ^\nO 6v D ^\nO 6v D ^\nO 6v D ^\nO 6v D ^\nO 6v D ^\nO 6v D ^\nO 9I C q sM 1zX 1Zx\nO 9I C q sM 1zX 1Zw\nO 9I C ^\nO 6l D ^ Z k ~9J\nO 6l D ^ Z k ~7d\nO 9I C ^\nO 9I C ^\nO 9I C ^\nO kA a 2 11W ~59 NL ~59\nO 8N a 9 11W ~59 1M1 119 1M2 ~59 1M3 ~7d 1M4 ~7d 1M5 ~8O 1M6 ~8P 1M7 ~59 1M8 ~8P\nO LF C q 1Ay - 4q a 7 1cB ~8P 1TQ ~59 1Wx SV 1On ~7d 1Wy ~bb 1WA ~bb 1ZN ~8P\nO LD C q 1Ay - 1H a 7 1cB ~8P 1TQ ~59 1Wx bb 1On ~7d 1Wy ~bb 1WA ~bb 1ZN ~8P\nO kA a 2 11W ~59 NL ~59\nO 8N a 9 11W ~59 1M1 11d 1M2 ~59 1M3 ~7d 1M4 ~7d 1M5 ~8O 1M6 ~8P 1M7 ~59 1M8 ~8P\nO 143 a 3 1ZO ~bb 1ZP ~7d 1ZQ ~5j\nT 5k P 1ZR 5R 0 5l 2 11g 5l C o 1m a C 1KX 13v 1KY 13w 1L5 13x 1L6 13y 1KZ 13z 10J 13A 10K 13B 10L 13C 10M 13D 10O 13E 10N 13F 10R 13G 1Ma 13H 117 13I 1Mb 13J 1ZS 13K 1ZT 13L 1ZU 13M 1ZV 13N 1ZW 13O 1wt 13P 1wv 13Q 1LM 13R 1ZX 13S 1ZY 13T 1ZZ 13U 200 13V 201 13W rJ 13X z5 13Y 1MS 13Z 202 140 s3 141 203 142 2 ~59 po ~11g pn ~11g 204 ~11j\nT 5k P 205 5S 0 11g 3 11h 11g 5l C o 1m a L 1KX 12O 1KY 12P 1L5 12Q 1L6 12R 1KZ 12S 10J 12T 10K 12U 10L 12V 10M 12W 10O 12X 10N 12Y 10R 12Z 1Ma 130 117 131 1Mb 132 206 133 207 134 1ZS 135 208 136 1ww 137 209 138 1ZU 139 5R 13a 5T 13b 20a 13c 1wt 13d 1ZX 13e 20b 13f 20c 13g 1ZZ 13h 20d 13i 1wI 13j 20e 13k z5 13l 20f 13m 1MR 13n 1MS 13o 20g 13p 20h 13q 20i 13r 20j 13s 5V 13t 20k 13u 2 ~59 po ~11h pn ~11h 204 ~11j\nT 5k P 20l 5T 0 5l 2 11i 5l C o 1m a v 1KX 12n 1KY 12o 1L5 12p 1L6 12q 1KZ 12r 10J 12s 10K 12t 10L 12u 10M 12v 10O 12w 10N 12x 1ZZ 12y 1wv 12z 1LM 12A 20d 12B 1wI 12C 20e 12D z5 12E 1ZU 12F 1MR 12G 1MS 12H 20g 12I 20h 12J 20i 12K 20j 12L 5V 12M 20k 12N 2 ~59 po ~11i pn ~11i 204 ~11j\nT 5k P 20m 5U 0 5l 2 11j 5l C o 1m a C 1KX 11P 1KY 11Q 1L5 11R 1L6 11S 1KZ 11T 10J 11U 10K 11V 10L 11W 10M 11X 10O 11Y 10N 11Z 10R 120 1Ma 121 117 122 1Mb 123 110 124 1La 125 10Z 126 1L8 127 1Mc 128 1Md 129 112 12a 114 12b 10Q 12c 1Mf 12d 10U 12e 1Mn 12f 118 12g 1Mo 12h 20n 12i 1MS 12j 20o 12k 20p 12l 20q 12m 2 ~59 204 ~11j po ~11j pn ~11j\nT 5k P 20r 5W 0 11l 3 11k 11l 5l C o 1m a j 1KX 11A 1KY 11B 1L5 11C 1L6 11D 10J 11E 10K 11F 10L 11G 10M 11H 10O 11I 10N 11J 1wI 11K 20d 11L 20e 11M 20s 11N 20t 11O 2 ~59 20u ~11k po ~11k pn ~11k\nT 5k P 20v 5V 0 5l 2 11l 5l C o 1m a 8 1KX 11t 1KZ 11u 1wI 11v 20d 11w 20e 11x 20s 11y 1MS 11z 2 ~59\nO 9I C ^ o 2 1NE ~bb 2 ~59\nO 9I C o 4G o 1 2 ~59\nO IO C ^ a 7 1Xz 11r 1LQ ~59 1 ~59 1MO ~59 2 ~7d RL ~9J 1NO 11s\nO 9I C o 4G\nO 9I C o 4G\nO 9I C q vw 1XG 1XF o 1 1NB ~bb\nO 9I C q 1zz - 1zB\nO 7c C b S 11l o 1 1LQ ~7d\nO 6R C d D ^\nO 6G C d D ^ Y 7c o 1 1L4 ~7d\nO 6G C d D ^ Y 7c o 1 1L4 ~7d\nO 6G C d D ^ Y 7c o 1 1L4 ~7d\nO 6G C d D ^ Y 7c o 1 1L4 ~7d\nO 6G C d D ^ Y 7c o 1 1L4 ~7d\nO 7c C b S 11k o 1 1LQ ~7d\nO 6R C d D ^\nO 6R C d D ^\nO 6R C d D ^\nO 6R C d D ^\nO 6R C d D ^\nO 6R C d D ^\nO 6R C d D ^\nO 6R C d D ^\nO 6R C d D ^\nO 6G C d D ^ Y 7c o 1 1L4 ~7d\nO 6G C d D ^ Y 7c o 1 1L4 ~7d\nO 6G C d D ^ Y 7c o 1 1L4 ~7d\nO 6G C d D ^ Y 7c o 1 1L4 ~7d\nO 6G C d D ^ Y 7c o 1 1L4 ~7d\nO 7c C b S 11j o 1 1LQ ~7d\nO 6R C d D ^\nO 6R C d D ^\nO 6R C d D ^\nO 6R C d D ^\nO 6R C d D ^\nO 6R C d D ^\nO 6R C d D ^\nO 6R C d D ^\nO 6R C d D ^\nO 6R C d D ^\nO 6R C d D ^\nO 6R C d D ^\nO 6R C d D ^\nO 6R C d D ^\nO 6R C d D ^\nO 6R C d D ^\nO 6R C d D ^\nO 6R C d D ^\nO 6R C d D ^\nO 6R C d D ^\nO 6R C d D ^\nO 6R C d D ^\nO 6R C d D ^\nO 6R C d D ^\nO 6R C d D ^\nO 6R C d D ^\nO 6R C d D ^\nO 6R C d D ^\nO 6G C d D ^ Y 7c o 1 1L4 ~7d\nO 6G C d D ^ Y 7c o 1 1L4 ~7d\nO 6v D ^ Z k ~5j o 1 2 ~59\nO 6v D ^ Z k ~5j o 1 2 ~59\nO 6v D ^ Z k ~5j o 1 2 ~59\nO 7c C b S 11i o 1 1LQ ~7d\nO 6R C d D ^\nO 6R C d D ^\nO 6R C d D ^\nO 6R C d D ^\nO 6R C d D ^\nO 6R C d D ^\nO 6R C d D ^\nO 6R C d D ^\nO 6R C d D ^\nO 6R C d D ^\nO 6G C d D ^ Y 7c o 1 1L4 ~7d\nO 6G C d D ^ Y 7c o 1 1L4 ~7d\nO 6G C d D ^ Y 7c o 1 1L4 ~7d\nO 6G C d D ^ Y 7c o 1 1L4 ~7d\nO 6G C d D ^ Y 7c o 1 1L4 ~7d\nO 6G C d D ^ Y 7c o 1 1L4 ~7d\nO 6G C d D ^ Y 7c o 1 1L4 ~7d\nO 72 C d D ^ Y 7c\nO 6G C d D ^ Y 7c o 1 1L4 ~7d\nO 6G C d D ^ Y 7c o 1 1L4 ~7d\nO 6l D ^ Z k ~5j o 1 2 ~7d\nO 6l D ^ Z k ~5j o 1 2 ~7d\nO 6l D ^ Z k ~5j o 1 2 ~7d\nO 6l D ^ Z k ~5j o 1 2 ~7d\nO 6l D ^ Z k ~7d o 1 2 ~7d\nO 6l D ^ Z k ~5j o 1 2 ~7d\nO 7c C b S 11h o 1 1LQ ~7d\nO 6R C d D ^\nO 6R C d D ^\nO 6R C d D ^\nO 6R C d D ^\nO 6R C d D ^\nO 6R C d D ^\nO 6R C d D ^\nO 6R C d D ^\nO 6R C d D ^\nO 6R C d D ^\nO 6R C d D ^\nO 6R C d D ^\nO 6R C d D ^\nO 6R C d D ^\nO 72 C d D ^ Y 7c o 1 1L4 ~59\nO 72 C d D ^ Y 7c\nO 72 C d D ^ Y 7c\nO 72 C d D ^ Y 7c\nO 72 C d D ^ Y 7c\nO 72 C d D ^ Y 7c\nO 72 C d D ^ Y 7c\nO 6G C d D ^ Y 7c o 1 1L4 ~7d\nO 6G C d D ^ Y 7c o 1 1L4 ~7d\nO 6G C d D ^ Y 7c o 1 1L4 ~7d\nO 6G C d D ^ Y 7c o 1 1L4 ~7d\nO 6G C d D ^ Y 7c o 1 1L4 ~7d\nO 6G C d D ^ Y 7c o 1 1L4 ~7d\nO 6G C d D ^ Y 7c o 1 1L4 ~7d\nO 6G C d D ^ Y 7c o 1 1L4 ~7d\nO 6G C d D ^ Y 7c o 1 1L4 ~7d\nO 6G C d D ^ Y 7c o 1 1L4 ~7d\nO 6G C d D ^ Y 7c o 1 1L4 ~7d\nO 6G C d D ^ Y 7c o 1 1L4 ~7d\nO 6G C d D ^ Y 7c o 1 1L4 ~7d\nO 6G C d D ^ Y 7c o 1 1L4 ~7d\nO 6G C d D ^ Y 7c o 1 1L4 ~7d\nO 6l D ^ Z k ~5j o 1 2 ~7d\nO 6l D ^ Z k ~5j o 1 2 ~7d\nO 6l D ^ Z k ~5j o 1 2 ~7d\nO 6l D ^ Z k ~5j o 1 2 ~7d\nO 6l D ^ Z k ~7d o 1 2 ~7d\nO 6l D ^ Z k ~5j o 1 2 ~7d\nO 7c C b S 11g o 1 1LQ ~7d\nO 6R C d D ^\nO 6R C d D ^\nO 6R C d D ^\nO 6R C d D ^\nO 6R C d D ^\nO 6R C d D ^\nO 6R C d D ^\nO 6R C d D ^\nO 6R C d D ^\nO 6R C d D ^\nO 6R C d D ^\nO 6R C d D ^\nO 6R C d D ^\nO 6R C d D ^\nO 72 C d D ^ Y 7c o 1 1L4 ~59\nO 72 C d D ^ Y 7c\nO 72 C d D ^ Y 7c\nO 72 C d D ^ Y 7c\nO 72 C d D ^ Y 7c\nO 6G C d D ^ Y 7c o 1 1L4 ~7d\nO 6G C d D ^ Y 7c o 1 1L4 ~7d\nO 6G C d D ^ Y 7c o 1 1L4 ~7d\nO 6G C d D ^ Y 7c o 1 1L4 ~7d\nO 6G C d D ^ Y 7c o 1 1L4 ~7d\nO 6G C d D ^ Y 7c o 1 1L4 ~7d\nO 6G C d D ^ Y 7c o 1 1L4 ~7d\nO 6G C d D ^ Y 7c o 1 1L4 ~7d\nO 6G C d D ^ Y 7c o 1 1L4 ~7d\nO 6G C d D ^ Y 7c o 1 1L4 ~7d\nO 6G C d D ^ Y 7c o 1 1L4 ~7d\nO 6l D ^ Z k ~5j o 1 2 ~7d\nO 6l D ^ Z k ~5j o 1 2 ~7d\nO 6l D ^ Z k ~5j o 1 2 ~7d\nT 5k P = l 1 5l 2 143 5l C ^ a 8 1LQ ~59 1L2 144 20w 145 20x 146 1KY 147 1L3 148 1M0 149 2 ~7d o 1 2 ~7d\nO 9I C ^\nO 9I C ^ o 1 2 ~59\nO 9I C ^ o 1 2 ~59\nO 9I C ^\nO 6l D ^ I k ~9J\nO 6l D ^ I k ~7d\nO kA a 2 11W ~59 NL ~59\nO 8N a 9 11W ~59 1M1 14a 1M2 ~59 1M3 ~7d 1M4 ~7d 1M5 ~8O 1M6 ~8P 1M7 ~59 1M8 ~8P\nT 5k P = 1yM 1 152 5 14c 152 8r 8s 5l C ^ a 3 1LQ ~59 2 ~59 1M0 153\nO 9I C o 4F o 2 2 ~59 1Nr ~9J\nO 9I C o 4F o 2 2 ~59 1Nr ~9J\nT 5k P = 1z9 1 5l 2 14f 5l C ^ a c 1LQ ~59 2 ~59 20y ~5j 20z ~5j 1L2 14U 20A 14V 20B 14W 20C 14X pW 14Y ca 14Z 1L3 150 1M0 151\nT 5k P = 1za 1 5l 2 14g 5l C ^ a 7 1LQ ~59 1L2 14P 20D 14Q 20E 14R 1L3 14S 1M0 14T 2 ~7d o 1 2 ~7d\nT 5k P = 1zb 1 bb 3 14h bb 5l C ^ a g 2 ~59 1On ~bb 1Xk ~bb 1Xl ~9J 1KX 14F 1Xm 14G 1Xn 14H 1KY 14I 1Xo 14J 1LP 14K 1Xp ~bb 1Rq 14L c1 14M 1LQ ~59 RL ~9J 1Yf ~bb\nO 9I C ^\nO 9I C ^\nO 9I C ^\nO 9I C ^\nO 9I C ^\nO 9I C ^\nO 9I C ^\nO 9I C ^\nO 9I C ^\nO 9I C ^\nO 9I C ^\nO 9I C ^\nO 9I C ^\nO 9I C ^ o 1 1Nr ~9J\nO 9I C ^\nO 9I C ^\nO 9I C ^\nO 9I C ^\nO 9I C ^\nO 9I C ^\nO 9I C ^ o 1 2 ~59\nO 9I C ^\nO 9I C ^ o 1 2 ~59\nO bz C t 1NP F 14O\nO b0 F 14N a 5 1LQ ~59 1 ~59 1MO ~59 2 ~7d RL ~9J\nO 9I C q tH 1zb 1Xn o 2 1NB ~bb 2 ~59\nO 9I C q tH 1zb 1KY o 2 1NB ~bb 2 ~59\nO 9I C q tH 1zb 1Xo o 2 1NB ~bb 2 ~59\nO 9I C q tH 1zb 1LP o 2 1NB ~bb 2 ~59\nO Jp\nO Jp\nO 9I C q tH 1zb 1Xm o 2 1NB ~bb 2 ~59\nO 9I C q 20F 1zb 1KX o 2 1NE ~bb 2 ~59\nO 9I C ^\nO 9I C ^ o 1 1Nr ~9J\nO 9I C ^\nO 6l D ^\nO 6l D ^\nO 9I C ^\nO 9I C ^\nO 9I C ^\nO 9I C ^\nO 9I C ^\nO 9I C ^\nO 6l D ^\nO 6l D ^\nT 5k P = qr 0 8r 4 152 8r 8s 5l C ^ a 3 1KX 154 1L2 155 2 ~59\nO 6l D ^\nO 7c C b S 152 o 1 1LQ ~7d\nO 6R C d D ^\nO kA a 2 11W ~59 NL ~59\nO 8N a 9 11W ~59 1M1 156 1M2 ~59 1M3 ~7d 1M4 ~8O 1M5 ~8O 1M6 ~8P 1M7 ~59 1M8 ~8P\nO kA a 2 11W ~59 NL ~59\nO 8N a 9 11W ~59 1M1 158 1M2 ~59 1M3 ~7d 1M4 ~7d 1M5 ~8O 1M6 ~8P 1M7 ~59 1M8 ~8P\nO 7c C ^ S n\nO 7c C ^ S 6\nT 5k P 20G 9W 0 160 4 15c 160 hW 5l C q 7D - 9W a u 1KX 161 1KY 162 1PP 163 1L2 164 1PL 165 1g7 166 13o 167 13k 168 1OV 169 1OO 16a eD 16b In 16c 1P2 16d 1OX 16e 1P5 16f 13u 16g 1OQ 16h 1OP 16i 13D 16j 1SI 16k 1Yg 16l 1Yh 16m 20H 16n 20I 16o 11W 16p 1PW 16q 1Yi 16r AP 16s 20J 16t 2 ~59 o 1 1L4 ~59\nO 9I C ^\nO 9I C ^\nO 9I C ^\nT 5k P = 1y8 1 15I 4 15g 15I bb 5l C ^ a 5 1LQ ~59 1KY 15J 20K 15K 1L3 15L 2 ~7d o 1 2 ~7d\nO 9I C ^\nO 9I C ^\nO 9I C ^\nO 9I C ^\nO IO C ^ a 7 1Xz 15G 1LQ ~59 1 ~59 1MO ~59 2 ~7d RL ~9J 1NO 15H\nT 5k P = 1yF 1 8r 4 15m 8r 8s 5l C ^ a 3 1LQ ~59 1M0 15F 2 ~7d o 1 2 ~7d\nT 5k P = 1yG 1 8r 4 15n 8r 8s 5l C ^ a 3 1LQ ~59 1M0 15E 2 ~7d o 1 2 ~7d\nT 5k P = 1yH 1 5l 2 15o 5l C ^ a 8 1LQ ~59 1L2 15y 20L 15z 1yI 15A 20M 15B 1L3 15C 1M0 15D 2 ~7d o 1 2 ~7d\nO 9I C ^ o 1 2 ~59\nO 9I C ^ o 1 2 ~59\nO 9I C ^ o 1 2 ~59\nO 9I C ^ o 1 2 ~59\nO 9I C ^ o 1 2 ~59\nO 9I C ^\nO 9I C ^ o 1 2 ~59\nO 9I C ^\nO 9I C ^ o 1 2 ~59\nO 9I C ^\nO 9I C ^\nO 9I C ^\nO 9I C ^\nO 6l D ^\nO 6l D ^\nO 6l D ^\nO 6l D ^\nO 9I C q vw 1XE 1XF o 1 1NB ~bb\nO 9I C q Om - tF\nT 5k P = 1y8 1 bb 3 15I bb 5l C q Om - 1y8 a h 2 ~59 1On ~bb 1Xk ~bb 1Xl ~9J 1KX 15N 1Xm 15O 1Xn 15P 1KY 15Q 1Xo 15R 1LP 15S 1Xp ~bb q1 15T sH 15U 1Rr 15V 1Rs 15W 1Zx 15X 1LQ ~59\nO 9I C ^\nO 9F o 2 2 ~7d 1Ns 15M\nO 6l D ^\nO 9I C q Om 1y8 20K\nO bz C t 1NP F 15Z\nO b0 F 15Y a 5 1LQ ~59 1 ~59 1MO ~59 2 ~7d RL ~9J\nO 9I C q tH 1y8 1Xn o 2 1NB ~bb 2 ~59\nO 9I C q tH 1y8 1KY o 2 1NB ~bb 2 ~59\nO 9I C q tH 1y8 1Xo o 2 1NB ~bb 2 ~59\nO 9I C q tH 1y8 1LP o 2 1NB ~bb 2 ~59\nO Jp\nO Jp\nO Jp\nO Jp\nO Jp\nO 9I C q tH 1y8 1Xm o 2 1NB ~bb 2 ~59\nO 9I C q 20N 1y8 1KX o 1 2 ~59\nT 5k P 20O 9O 0 hW 3 160 hW 5l C q 7D - 9O a 8 1PL 16u 13k 16v 1OV 16w 13o 16x 1SI 16y 1Yi 16z AP 16A 2 ~59\nO 7c C b S 15c o 1 1LQ ~7d\nO 6R C d D ^\nO 6R C d D ^\nO 6R C d D ^\nO 6G C d D ^ Y 7c o 1 2 ~7d\nO 6G C d D ^ Y 7c\nO 6G C d D ^ Y 7c o 1 2 ~7d\nO 6G C d D ^ Y 7c o 1 2 ~7d\nO 6G C d D ^ Y 7c o 1 2 ~7d\nO 6G C d D ^ Y 7c o 1 2 ~7d\nO 6G C d D ^ Y 7c o 1 2 ~7d\nO 6G C d D ^ Y 7c o 1 2 ~7d\nO 6G C d D ^ Y 7c o 1 2 ~7d\nO 6G C d D ^ Y 7c o 1 2 ~7d\nO 6G C d D ^ Y 7c o 1 2 ~7d\nO 6G C d D ^ Y 7c o 1 2 ~7d\nO 6G C d D ^ Y 7c\nO 6G C d D ^ Y 7c\nO 6G C d D ^ Y 7c o 1 2 ~7d\nO 6v D ^ I k ~59\nO 6v D ^ I k 18r\nO 6v D ^ I k ~8P\nO 6v D ^ I k ~8P\nO 6v D ^ I k ~8P\nO 6l D ^ I k ~59 o 1 2 ~7d\nO 6l D ^ I k ~8P o 1 2 ~7d\nO 6l D ^ I k ~7d o 1 2 ~7d\nO 6l D ^ I k ~59 o 1 2 ~7d\nO 6l D ^ I k ~5j o 1 2 ~7d\nO 6G C d D ^ Y 7c o 1 1L4 ~7d\nO 6G C d D ^ Y 7c o 1 1L4 ~7d\nO 6G C d D ^ Y 7c o 1 1L4 ~7d\nO 6G C d D ^ Y 7c o 1 1L4 ~7d\nO 6l D ^\nO 6l D ^\nO 6l D ^\nO kA a 2 11W ~59 NL ~59\nO 8N a 9 11W ~59 1M1 16B 1M2 ~59 1M3 ~7d 1M4 ~7d 1M5 ~8O 1M6 ~8P 1M7 ~59 1M8 ~8P\nO kA a 2 11W ~59 NL ~59\nO 8N a 9 11W ~59 1M1 16D 1M2 ~59 1M3 ~7d 1M4 ~7d 1M5 ~8O 1M6 ~8P 1M7 ~59 1M8 ~8P\nO 7c C ^ S 4A o 1 1L4 ~7d\nO 7c C ^ S X\nO 9I C ^ o 1 2 ~59\nT 5k P = 1w4 1 5l 2 16I 5l C ^ a 9 1LQ ~59 2 ~59 1L2 16M 1zQ 16N 1wS 16O ro 16P 20P 16Q 1L3 16R 1M0 16S\nO 9I C ^ o 2 1NE ~bb 2 ~59\nO 9I C ^ o 2 1NE ~bb 2 ~59\nO 9I C ^ o 3 1NE ~bb 2 ~59 1Nr ~9J\nO 9I C ^ o 2 1NE ~bb 2 ~59\nO 9I C ^ o 2 1NE ~bb 2 ~59\nO 9I C ^ o 2 1NE ~bb 2 ~59\nO 9I C ^ o 2 1NE ~bb 2 ~59\nO 9I C ^ o 2 1NE ~bb 2 ~59\nO 6l D ^\nO 6l D ^\nO 8N a 9 11W ~59 1M1 5a 1M2 ~59 1M3 ~7d 1M4 ~7d 1M5 ~8O 1M6 ~8P 1M7 ~7d 1M8 ~8P o 1 1M9 ~7d\nO 7c C ^ S 4A o 1 1L4 ~7d\nO 7c C ^ S 4A o 1 1L4 ~7d\nO 7c C ^ S 4A o 1 1L4 ~7d\nO 7c C ^ S 4A o 1 1L4 ~7d\nO 7c C ^ S 4A o 1 1L4 ~7d\nO 7c C ^ S 4A o 1 1L4 ~7d\nO 7c C ^ S 4A o 1 1L4 ~7d\nO 7c C ^ S 4A o 1 1L4 ~7d\nO 7c C ^ S 4A o 1 1L4 ~7d\nO 7c C ^ S 4A o 1 1L4 ~7d\nO 7c C ^ S 4A o 1 1L4 ~7d\nO 7c C ^ S 4A o 1 1L4 ~7d\nO 7c C ^ S 4A o 1 1L4 ~7d\nO 7c C ^ S 4A o 1 1L4 ~7d\nO 7c C ^ S 4A o 1 1L4 ~7d\nO 7c C ^ S 4A o 1 1L4 ~7d\nO 7c C ^ S 4A o 1 1L4 ~7d\nO 7c C o 4A S 4A o 1 1L4 ~7d\nO 7c C ^ S 4A o 1 1L4 ~7d\nO 7c C ^ S 4A o 1 1L4 ~7d\nO 7c C ^ S 4A o 1 1L4 ~7d\nO 7c C ^ S 4A o 1 1L4 ~7d\nO 7c C ^ S 4A o 1 1L4 ~7d\nO 7c C ^ S 4A o 1 1L4 ~7d\nO 7c C ^ S 4A o 1 1L4 ~7d\nT 5k P 20Q 1wQ 1 bb 3 17j bb 5l C ^ a k 1KX 17k 1KY 17l 1MS 17m 20R 17n 20S 17o 20T 17p 20U 17q 20V 17r 20W 17s 20X 17t 20Y 17u 20Z 17v 210 17w 211 17x 2 ~59 1LQ ~59 212 ~5j 213 ~5j 214 ~5j 1Xp ~bb\nO 7c C b S 17j o 1 1LQ ~7d\nO 6R C d D ^\nO 6G C d D ^ o 2 2 ~7d 1L4 ~7d\nO 6v D ^ o 1 2 ~59\nO 6v D ^ o 1 2 ~59\nO 6v D ^ o 1 2 ~59\nO 6v D ^ o 1 2 ~59\nO 6v D ^ o 1 2 ~59\nO 6v D ^ o 1 2 ~59\nO 6v D ^ o 1 2 ~59\nO 6v D ^ o 1 2 ~59\nO 6v D ^ o 1 2 ~59\nO 6v D ^ o 1 2 ~59\nO 6v D ^ o 1 2 ~59\nO kA a 2 11W ~59 NL ~59\nO 8N a 9 11W ~59 1M1 17y 1M2 ~59 1M3 ~7d 1M4 ~7d 1M5 ~8O 1M6 ~8P 1M7 ~59 1M8 ~8P\nT 5k P 215 Rf 0 5l 2 17A 5l C ^ a 7 1KX 1bU 1KZ 1bV 1L7 1bW 1PP 1bX 1MS 1bY 1N8 1bZ 2 ~59\nO 7c C ^ S I o 1 1L4 ~7d\nO 7c C ^ S I o 1 1L4 ~7d\nO 7c C ^ S I o 1 1L4 ~7d\nO 7c C ^ S I o 1 1L4 ~7d\nO 7c C ^ S I o 1 1L4 ~7d\nT 5k P = ql 0 8r 4 17G 8r 8s 5l C o X a 3 1KX 1bS 1L2 1bT 2 ~59\nT 5k P 216 ly 1 5l 2 17H 5l C ^ a d 1KX 1bH 1KY 1bI 217 1bJ 1ah 1bK 218 1bL 219 1bM 21a 1bN 21b 1bO 1P8 1bP 1P9 1bQ 21c 1bR 2 ~7d 1LQ ~59 o 1 2 ~7d\nT 5k P = pN 0 5l 2 17I 5l C ^ a L 1KX 1aX 1KY 1aY 1L5 1aZ 1KZ 1b0 10J 1b1 10K 1b2 10L 1b3 10M 1b4 10O 1b5 10N 1b6 10R 1b7 1Ma 1b8 117 1b9 1Mb 1ba 110 1bb 1La 1bc 10Z 1bd 1L8 1be 1Mc 1bf 1Md 1bg 115 1bh 1Me 1bi 112 1bj 114 1bk 10Q 1bl 1Mf 1bm 1Ml 1bn 1Mm 1bo 10U 1bp 1Mn 1bq 118 1br 1Mo 1bs 1Mp 1bt 1Mu 1bu 1Mv 1bv 1Mw 1bw 1Mx 1bx 1Mt 1by 1NT 1bz pe 1bA 21d 1bB 1LP 1bC 21e 1bD 1LM 1bE 1My 1bF 1Mz 1bG 2 ~59 o 1 1L4 ~59\nO 9I C ^ o 1 2 ~59\nO 9I C ^ o 1 2 ~59\nO 9I C ^ o 1 2 ~59\nO 9I C ^ o 1 2 ~59\nO 9I C ^ o 1 2 ~59\nT 5k P = 1vR 1 5l 2 17O 5l C ^ a f 1LQ ~59 2 ~59 1L2 1aL 1KY 1aM 21c 1aN 217 1aO 1P8 1aO 1ah 1aP 1P9 1aQ 219 1aR 21a 1aS 218 1aT 21b 1aU 1L3 1aV 1M0 1aW\nT 5k P = XO 1 5l 2 17P 5l C ^ a h 1LQ ~59 2 ~59 1L2 1aw 21c 1ax 1P8 1ay 1P9 1az 1KY 1aA 21a 1aB 219 1aC 218 1aD up 1aE 21f 1aF 21g 1aG 21h 1aH 21i 1aI 1L3 1aJ 1M0 1aK\nT 5k P = XY 1 5l 2 17Q 5l C ^ a a 1LQ ~59 2 ~59 1L2 1ap 1KY 1aq 217 1ar 1P8 1ar 1ah 1as 1P9 1at 1L3 1au 1M0 1av\nT 5k P = XM 1 17Q 3 17R 17Q 5l C ^ a 5 1LQ ~59 2 ~59 1L2 1am 1KY 1an 1ah 1ao\nT 5k P = XP 1 5l 2 17S 5l C ^ a c 1LQ ~59 2 ~59 1L2 1ac 1KY 1ad 21c 1ae 21j 1af 21k 1ag pW 1ah 1Nj 1ai up 1aj 1L3 1ak 1M0 1al\nT 5k P = XL 1 5l 2 17T 5l C ^ a h 1LQ ~59 2 ~59 1L2 19U 1KY 19V up 19W 21l 19X 21m 19Y 21n 19Z 16l 1a0 1Qq 1a1 141 1a2 21o 1a3 21p 1a4 21q 1a5 21r 1a6 1L3 1a7 1M0 1a8\nT 5k P = 1vT 1 17G 5 17U 17G 8r 8s 5l C ^ a 3 1LQ ~59 1M0 19T 2 ~7d o 1 2 ~7d\nO KR C q pA Rh 1PP\nO 9I C ^\nO zc a 4 1Rq ~ns 21s 19S 21t ~8O 21u ~ns o 1 1M0 ~z7\nT 5k P 21v 21w 1 5l 2 17Y 5l C q 6M - 21w a c 1KY 19I 9n 19J 217 19K 9o 19L 1ah 19M 21x 19N 21y 19O 1P8 19P 1P9 19Q 21c 19R 2 ~59 1LQ ~59\nO 9I C ^ o 1 2 ~59\nT 5k P = 1w1 1 5l 2 180 5l C ^ a s 1LQ ~59 2 ~59 21z ~8P 1L2 19d 21A 19e 1KY 19f 1Rr 19g 1pJ 19h 7C 19i 21B 19j 21C 19k 21D 19l 21E 19m 21F 19n 21G 19o 10i 19p 21H 19q 11W 19r 21I 19s 21J 19t 21K 19u 21L 19v 21M 19w 21N 19x 21O 19y 21P 19z 1L3 19A 1M0 19B\nO 7c C ^ S I o 1 1L4 ~7d\nT 5k P 21Q lA 1 bb 3 182 bb 5l C ^ a d 1KX 196 1KY 197 1MS 198 21R 199 21S 19a 21T 19b uv 19c 2 ~59 1LQ ~59 212 ~5j 213 ~5j 214 ~5j 1Xp ~bb\nO 9I C ^\nT 5k P = 1w4 1 180 3 184 180 5l C ^ a 5 1LQ ~59 2 ~59 1L2 193 21U 194 1pJ 195\nT 5k P = 1w5 1 180 3 185 180 5l C ^ a 3 1LQ ~59 1L2 192 2 ~7d o 1 2 ~7d\nT 5k P = 1w6 1 180 3 186 180 5l C ^ a 6 1LQ ~59 1L2 18Y 21F 18Z 21K 190 10i 191 2 ~7d o 1 2 ~7d\nO 9I C ^ o 1 2 ~59\nO 9I C ^ o 1 2 ~59\nO 9I C ^ o 1 2 ~59\nO 9I C ^ o 1 2 ~59\nO 9I C ^\nO 9I C ^ o 1 2 ~59\nO 9I C ^ o 1 2 ~59\nO 7c C ^ S I o 1 1L4 ~7d\nO 185 a d 21V ~7d 1TQ ~59 21W ~bb 21X ~9J 21Y ~8P 21Z ~5j 220 ~5j 221 ~17Y 222 18o 223 ~8P 21z ~8P 224 18p 225 18q o 1 1M0 ~z7\nO 9I C ^ o 1 2 ~59\nO 9I C ^ o 1 2 ~59\nT 5k P 226 lz 1 5l 2 18i 5l C ^ a 6 1KX 18k 1KZ 18l 1L0 18m 1L1 18n 2 ~59 1LQ ~59\nO 9I C ^ o 1 2 ~59\nO 7c C b S 18i o 1 1LQ ~7d\nO 6R C d D ^\nO 6R C d D ^\nO 6R C d D ^\nO 17S a 2 227 18V 228 ~8P\nO 15c a 1 1p1 ~59\nO 9I C q uz 229 22a o 1 1NB ~bb\nO 18s a 1 11W ~59\nT 5k P 22b 9U 0 18t 4 18s 18t hW 5l C q 7D - 9U a o 1KX 18u 1KY 18v 1KZ 18w 1L2 18x 13k 18y 22c 18z 1PM 18A 13o 18B 1OQ 18C 1OP 18D 13D 18E eD 18F 1P2 18G 1OX 18H 1P5 18I In 18J 13u 18K 22d 18L 22e 18M 20I 18N 1PW 18O 22f 18P 1p1 18Q 2 ~59 o 1 1L4 ~59\nT 5k P 22g 9N 0 hW 3 18t hW 5l C q 7D - 9N a 5 13k 18R 22c 18S 1PM 18T 13o 18U 2 ~59\nO 7c C b S 18s o 1 1LQ ~7d\nO 6R C d D ^\nO 6R C d D ^\nO 6R C d D ^\nO 6G C d D ^ Y 7c\nO 6G C d D ^ Y 7c\nO 6G C d D ^ Y 7c\nO 6G C d D ^ Y 7c\nO 6G C d D ^ Y 7c\nO 6G C d D ^ Y 7c\nO 6G C d D ^ Y 7c\nO 6G C d D ^ Y 7c\nO 6G C d D ^ Y 7c\nO 6G C d D ^ Y 7c\nO 6G C d D ^ Y 7c\nO 6G C d D ^ Y 7c\nO 6G C d D ^ Y 7c\nO 6G C d D ^ Y 7c o 2 2 ~7d 1L4 ~7d\nO 6v D ^ I k ~5j\nO 6v D ^ I k ~8P\nO 6l D ^ I k ~8P\nO 6l D ^ I k ~8P\nO 6l D ^ I k ~59\nO 6G C d D ^ Y 7c o 1 2 ~7d\nO 6G C d D ^ Y 7c\nO 6G C d D ^ Y 7c o 2 2 ~7d 1L4 ~7d\nO 6G C d D ^ Y 7c o 2 2 ~7d 1L4 ~7d\nO 17P a 4 V9 ~17Y 217 18W 1ah 18X 22h ~RI\nO 7c C q pA 21w 217 S ~17Y o 2 1LQ ~7d 1L4 ~7d\nO 7c C q pA 21w 1ah S ~17Y o 2 1LQ ~7d 1L4 ~7d\nO 9I C ^\nO 9I C ^\nO 9I C ^\nO 9I C ^ o 1 1NE ~bb\nO 9I C ^\nO 9I C ^ o 1 1NE ~bb\nO 9I C ^ o 1 2 ~59\nO 9I C ^\nO 7c C b S 182 o 1 1LQ ~7d\nO 6R C d D ^\nO 6G C d D ^ o 2 2 ~7d 1L4 ~7d\nO 6v D ^ o 1 2 ~59\nO 6v D ^ o 1 2 ~59\nO 6v D ^ o 1 2 ~59\nO 6v D ^ o 1 2 ~59\nO 9I C ^ o 3 1NE ~bb 2 ~59 1Nr ~9J\nO 9I C ^\nO 9I C ^\nO 9I C ^ o 1 2 ~59\nO 9I C ^ o 1 2 ~59\nO 9I C ^\nO 9I C ^\nO 9I C ^\nO 9I C ^ o 1 2 ~59\nO 9I C ^\nO 9I C ^\nO 9I C ^ o 1 2 ~59\nO 9I C ^ o 2 1NE ~bb 2 ~59\nO 9I C ^ o 1 1NE ~bb\nO 9F I k ~59 o 2 1Ns 19G 1Nt 19H\nO 9F I k ~5j o 1 1Ns 19F\nO 9F I k ~5j o 1 1Ns 19E\nO 9I C ^ o 1 2 ~59\nO 9F I k ~8P o 2 1Ns 19C 1Nt 19D\nO 9I C ^ o 1 2 ~59\nO 9I C ^ o 1 2 ~59\nO 9I C ^ o 1 2 ~59\nO 9I C ^ o 1 2 ~59\nO 6l D ^ I k ~9J\nO 6l D ^ I i\nO 9I C q uz 1w1 21L o 1 2 ~59\nO 9I C q uz 1w1 21L\nO 9I C q uz 1w1 21J o 1 2 ~59\nO 9I C q uz 1w1 21I o 1 2 ~59\nO 9I C q uz 1w1 11W o 1 2 ~59\nO 9I C q uz 1w1 11W\nO 6R C d D ^\nO 6G C d D ^ Y 7c o 1 1L4 ~7d\nO 6G C d D ^ Y 7c o 1 1L4 ~7d\nO 6G C d D ^ Y 7c o 1 1L4 ~7d\nO 6G C d D ^ Y 7c o 1 1L4 ~7d\nO 6G C d D ^ Y 7c o 1 1L4 ~7d\nO 6G C d D ^ Y 7c o 1 1L4 ~7d\nO 6G C d D ^ Y 7c o 1 1L4 ~7d\nO 6G C d D ^ Y 7c o 1 1L4 ~7d\nO 6G C d D ^ Y 7c o 2 2 ~7d 1L4 ~7d\nO 9I C q lV 22i 21s o 1 1NE ~bb\nO 6l D ^\nO 9I C ^ o 2 1NE ~bb 2 ~59\nO 9I C ^\nO 9I C ^ o 2 1NE ~bb 2 ~59\nO 9I C ^\nO 9I C ^\nO 9I C ^\nO 9I C ^\nO 9I C ^ o 1 2 ~59\nO 9I C ^ o 1 2 ~59\nO 9I C ^\nO 9F o 1 1Ns 1ab\nO 9F o 1 1Ns 1aa\nO 9F o 1 1Ns 1a9\nO 6l D ^\nO 6l D ^\nO 9I C q uz XL 21r o 1 2 ~59\nO 9I C q uz XL 21q o 1 2 ~59\nO 9I C q uz XL 21p o 1 2 ~59\nO 9I C ^\nO 9I C ^\nO 9I C ^\nO 9I C ^ o 1 2 ~59\nO 9I C ^ o 1 2 ~59\nO 9I C ^ o 1 2 ~59\nO 9I C ^ o 1 2 ~59\nO 9I C ^ o 2 1NE ~bb 2 ~59\nO 6l D ^ I k ~9J\nO 6l D ^ I k ~7d\nO 9I C ^ o 1 1NE ~bb\nO 9I C ^\nO 9I C ^ o 2 1NE ~bb 2 ~59\nO 9I C ^ o 1 1NE ~bb\nO 9I C ^\nO 9I C ^ o 2 1NE ~bb 2 ~59\nO 9I C ^ o 2 1NE ~bb 2 ~59\nO 9I C ^\nO 6l D ^\nO 6l D ^\nO 9I C ^ o 1 1NE ~bb\nO 9I C ^\nO 9I C ^\nO 9I C ^\nO 9I C ^\nO 9I C ^\nO 9I C ^\nO 9I C ^\nO 9I C ^ o 2 1NE ~bb 2 ~59\nO 9I C ^ o 2 1NE ~bb 2 ~59\nO 9I C ^ o 2 1NE ~bb 2 ~59\nO 9I C ^ o 1 2 ~59\nO 9I C ^ o 1 2 ~59\nO 6l D ^ I k ~9J\nO 6l D ^ I k ~7d\nO 9I C ^\nO 9I C ^\nO 9I C ^\nO 9I C ^ o 2 1NE ~bb 2 ~59\nO 9I C ^ o 1 2 ~59\nO 9I C ^\nO 9I C ^\nO 9I C ^\nO 9I C ^\nO 9I C ^\nO 6l D ^\nO 6l D ^\nO 7c C b S 17I o 1 1LQ ~7d\nO 6R C d D ^\nO 6R C d D ^\nO 6R C d D ^\nO 6R C d D ^\nO 6R C d D ^\nO 6R C d D ^\nO 6R C d D ^\nO 6R C d D ^\nO 6R C d D ^\nO 6R C d D ^\nO 6R C d D ^\nO 6R C d D ^\nO 6R C d D ^\nO 6R C d D ^\nO 6R C d D ^\nO 6R C d D ^\nO 6R C d D ^\nO 6R C d D ^\nO 6R C d D ^\nO 6R C d D ^\nO 6R C d D ^\nO 6R C d D ^\nO 6R C d D ^\nO 6R C d D ^\nO 6R C d D ^\nO 6R C d D ^\nO 6R C d D ^\nO 6R C d D ^\nO 6R C d D ^\nO 6R C d D ^\nO 6R C d D ^\nO 6G C d D ^ Y 7c\nO 6G C d D ^ Y 7c\nO 6G C d D ^ Y 7c\nO 6G C d D ^ Y 7c\nO 6G C d D ^ Y 7c\nO 6G C d D ^ Y 7c\nO 72 C d D ^ Y 7c o 1 1L4 ~59\nO 6G C d D ^ Y 7c\nO 6G C d D ^ Y 7c\nO 6G C d D ^ Y 7c o 1 2 ~7d\nO 72 C d D ^ Y 7c o 1 1L4 ~59\nO 6G C d D ^ Y 7c\nO 6l D ^ Z k ~17I\nO 6l D ^ Z k ~17I\nO 7c C b S 17H o 1 1LQ ~7d\nO 6R C d D ^\nO 6G C d D ^ Y 7c o 1 1L4 ~7d\nO 6G C d D ^ Y 7c o 1 1L4 ~7d\nO 6G C d D ^ Y 7c o 1 1L4 ~7d\nO 6G C d D ^ Y 7c o 1 1L4 ~7d\nO 6G C d D ^ Y 7c o 1 1L4 ~7d\nO 6G C d D ^ Y 7c o 1 1L4 ~7d\nO 6G C d D ^ Y 7c o 1 1L4 ~7d\nO 6G C d D ^ Y 7c o 1 1L4 ~7d\nO 6G C d D ^ Y 7c o 2 2 ~7d 1L4 ~7d\nO 7c C b S 17G o 1 1LQ ~7d\nO 6R C d D ^\nO 7c C b S 17A o 1 1LQ ~7d\nO 6R C d D ^\nO 6R C d D ^\nO 6R C d D ^\nO 6G C d D ^ o 1 1L4 ~7d\nO 6G C d D ^ o 1 1L4 ~7d\nO kA a 2 11W ~59 NL ~59\nO 8N a 9 11W ~59 1M1 1c0 1M2 ~59 1M3 ~7d 1M4 ~7d 1M5 ~8O 1M6 ~8P 1M7 ~59 1M8 ~8P\nT 5k P = 1vB 1 5l 2 1c2 5l C ^ a h 1LQ ~59 2 ~59 22j ~9J 22k ~oB 22l ~oB 22m ~oB 1L2 1c8 22n 1c9 22o 1ca 22p 1cb 22q 1cc 22r 1cd 22s 1ce 1vC 1cf 1vD 1cg 1L3 1ch 1M0 1ci\nO 9I C ^ o 2 1NE ~bb 2 ~59\nO 9I C ^ o 2 1NE ~bb 2 ~59\nO 9I C ^ o 1 2 ~59\nO 9I C ^ o 1 2 ~59\nO 9I C ^ o 2 1NE ~bb 2 ~59\nO 9I C ^ o 2 1NE ~bb 1Nr ~9J\nO 9I C ^ o 1 2 ~59\nO 9I C ^ o 1 2 ~59\nO 9I C ^ o 1 2 ~59\nO 9I C ^ o 1 2 ~59\nO 9I C ^ o 1 2 ~59\nO 9I C ^\nO 9I C ^ o 1 2 ~59\nO 9I C ^ o 1 2 ~59\nO 6l D ^\nO 6l D ^\nO 8N a 9 11W ~59 1M1 5a 1M2 ~59 1M3 ~7d 1M4 ~7d 1M5 ~8O 1M6 ~8P 1M7 ~7d 1M8 ~8P o 1 1M9 ~7d\nO 7c C ^ S 4x\nO 7c C ^ S 4x\nO 7c C ^ S 4x\nO 7c C ^ S 4x\nO 7c C ^ S 4x\nO 7c C ^ S 4x\nO 7c C ^ S 4x\nO 7c C ^ S 4x\nT 5k P = eX 1 8r 4 1cs 8r 8s 5l C ^ a 3 1LQ ~59 1M0 1ct 2 ~7d o 1 2 ~7d\nO 6l D ^\nO kA a 2 11W ~59 NL ~59\nO 8N a 9 11W ~59 1M1 1cu 1M2 ~59 1M3 ~7d 1M4 ~7d 1M5 ~8O 1M6 ~8P 1M7 ~59 1M8 ~8P\nT 5k P = dg 1 1e3 3 1cw 1e3 5l C ^ a y 1LQ ~59 2 ~59 1H7 ~5j 1L2 1e4 1cC 1e5 1cU 1e6 1cV 1e7 1MT 1e8 1N8 1e9 1MS 1ea 1MV 1eb 22t 1ec 22u 1ed 22v 1ec 1cX 1ee 1cH 1ef 1cF 1eg 1cG 1eh 1cJ 1ei 1cI 1ej 1cK 1ek 1cD 1el 1cE 1em 1cL 1en 1cQ 1eo 1cM 1ep 1cN 1eq 1cO 1er 1cP 1es 1cR 1et 1cS 1eu 1cT 1ev 1L3 1ew 1M0 1ex\nO 9I C ^\nO 9I C ^ o 1 2 ~59\nO 9I C ^ o 1 2 ~59\nT 5k P = 1rl 1 5l 2 1cA 5l C ^ a 8 1LQ ~59 2 ~59 1QX ~59 22w 1dX 1L7 1dY 1PP 1dZ 1L3 1e0 1M0 1e1\nO 9I C ^ o 1 2 ~59\nO 9I C ^ o 1 2 ~59\nO 9I C ^ o 1 2 ~59\nO 9I C ^ o 1 2 ~59\nO 9I C ^\nO 9I C ^\nO 9I C ^ o 1 2 ~59\nO 9I C ^ o 1 2 ~59\nO 9I C ^ o 1 2 ~59\nO 9I C ^ o 1 2 ~59\nO 9I C ^ o 1 2 ~59\nO 9I C ^ o 2 1NE ~bb 2 ~59\nO 9I C ^ o 2 1NE ~bb 2 ~59\nO 9I C ^ o 2 1NE ~bb 2 ~59\nT 5k P = 1rC 1 5l 2 1cP 5l C ^ a 9 1LQ ~59 2 ~59 22x ~7d 22y ~8P 1L2 1dS eD 1dT 1Po 1dU 1L3 1dV 1M0 1dW\nT 5k P = 1rD 1 5l 2 1cQ 5l C ^ a a 1LQ ~59 2 ~59 1L2 1dK us 1dL 1P8 1dM 1P9 1dN eD 1dO 1L7 1dP 1L3 1dQ 1M0 1dR\nO 9I C ^ o 3 1NE ~bb 2 ~59 1Nr ~9J\nO 9I C ^ o 3 1NE ~bb 2 ~59 1Nr ~9J\nT hS P = 1rH 1 hV 4 1cT hV hW 5l C ^ a C 1LQ ~59 2 ~59 22z ~8P 1L2 1d7 1Nq 1d8 22A 1d9 22B 1da 1P8 1db 1P9 1dc 1L7 1dd 1Po 1de eD 1df 1PW 1dg 1SI 1dh AP 1di In 1dj 1OO 1dk 13u 1dl 1p1 1dm 11W 1dn 1Yi 1do 1OX 1dp 13k 1dq 1OZ 1dr 1PM 1ds 1PN 1dt 1OV 1du 1PU 1dv 1P2 1dw 1OQ 1dx 1OP 1dy 13D 1dz 1P5 1dA 13o 1dB 1PV 1dC 1PL 1dD 1MQ ~i2 1P3 ~i3\nT 5k P = 1rI 1 5l 2 1cU 5l C ^ a c 1LQ ~59 2 ~59 1L2 1cV 22C 1cW Z7 1cX 1KY 1cY 1P8 1cZ 1P9 1d0 22D 1d1 1Nq 1d2 1L3 1d3 1M0 1d4\nO 9I C ^ o 1 1NE ~bb\nO b0 F 1d6 a 5 1LQ ~59 1 ~59 1MO ~59 2 ~7d RL ~9J\nO b0 F 1d5 a 5 1LQ ~59 1 ~59 1MO ~59 2 ~7d RL ~9J\nO 9I C ^\nO 9I C ^\nO 9I C ^\nO 9I C ^\nO b0 F Aj a 4 1LQ ~59 1 ~59 1MO ~59 2 ~59\nO 6l D ^\nO 6l D ^\nO 9I C q NU 1rI Z7 o 1 1NE ~bb\nO 9I C q NU 1rI 22C o 1 1NE ~bb\nO 9I C ^ o 2 1NE ~bb 1Nr ~9J\nO b0 F Aj a 4 1LQ ~59 1 ~59 1MO ~59 2 ~59\nO 9I C ^\nO 9I C ^\nO 9I C ^\nO 9I C ^\nO 9I C ^\nO 9I C ^\nO 9I C ^\nO 9F o 2 2 ~7d 1Ns 1dJ\nO 9F o 2 2 ~7d 1Ns 1dI\nO 9F o 2 2 ~7d 1Ns 1dH\nO 9I C ^\nO 9I C ^\nO 9I C ^\nO 9F o 2 2 ~7d 1Ns 1dG\nO 9F o 2 2 ~7d 1Ns 1dF\nO 9F o 2 2 ~7d 1Ns 1dE\nO 9I C ^\nO 9I C ^\nO 9I C ^\nO 9I C ^\nO 9I C ^\nO 9I C ^\nO 9I C ^\nO 9I C ^\nO 9I C ^\nO 9I C ^\nO 9I C ^ o 1 1NE ~bb\nO 9I C ^\nO 9I C ^\nO 9I C ^\nO 9I C ^\nO 9I C q NU 1rH 1Yi\nO 9I C q NU 1rH 11W\nO 9I C q NU 1rH 1p1\nO 9I C q NU 1rH AP\nO 9I C q NU 1rH 1SI\nO 9I C q NU 1rH 1PW\nO 9I C ^ o 1 1NE ~bb\nO 9I C ^\nO 9I C ^\nO 9I C ^\nO 9I C ^ o 1 2 ~59\nO 9I C ^\nO 6l D ^\nO 6l D ^\nO 9I C ^ o 1 1NE ~bb\nO 9I C ^ o 1 1NE ~bb\nO 9I C ^\nO 6l D ^\nO 6l D ^\nO 9F o 2 2 ~7d 1Ns 1e2\nO 9I C ^\nO 9I C ^\nO 6l D ^\nO 6l D ^\nO 9I C q NU 1rl 22w\nT 5k P 22E dg 1 5l 2 1e3 5l C ^ a 9 1KX 1ez 1L2 1eA Di 1eB 1cC 1eC 1cU 1eD 1cV 1eE 1cW 1eF 2 ~59 1LQ ~59\nO 9I C ^ o 2 1NE ~bb 2 ~59\nO 9I C ^ o 3 1NB ~bb 1NE ~bb 2 ~59\nO 9I C ^ o 2 1NB ~bb 2 ~59\nO 9I C ^ o 2 1NB ~bb 2 ~59\nO 9I C ^\nO 9I C ^\nO 9I C ^\nO b0 F 1ey\nO 9I C ^ o 1 2 ~59\nO 9I C ^ o 2 1NE ~bb 2 ~59\nO 9I C ^ o 1 2 ~59\nO 9I C ^ o 2 1NE ~bb 2 ~59\nO 9I C ^ o 1 2 ~59\nO 9I C ^ o 1 2 ~59\nO 9I C ^ o 1 2 ~59\nO 9I C ^ o 2 2 ~59 1Nr ~9J\nO 9I C ^ o 3 1NE ~bb 2 ~59 1Nr ~9J\nO 9I C ^ o 1 2 ~59\nO 9I C ^ o 2 1NE ~bb 2 ~59\nO 9I C ^ o 2 1NE ~bb 2 ~59\nO 9I C ^ o 2 1NE ~bb 2 ~59\nO 9I C ^ o 1 2 ~59\nO 9I C ^ o 1 2 ~59\nO 9I C ^ o 1 2 ~59\nO 9I C ^ o 1 2 ~59\nO 9I C ^ o 1 2 ~59\nO 9I C ^ o 1 2 ~59\nO 9I C ^ o 1 2 ~59\nO 6l D ^ I k ~9J\nO 6l D ^ I k ~7d\nO 9I C q Di dg 1MV o 1 2 ~59\nO 7c C b S 1e3 o 1 1LQ ~7d\nO 6R C d D ^\nO 6G C d D ^ Y 7c\nO 6G C d D ^ Y 7c\nO 6G C d D ^ Y 7c\nO 6G C d D ^ Y 7c\nO 6G C d D ^ Y 7c\nO 8N a 8 11W ~59 1M1 5a 1M2 ~59 1M3 ~7d 1M4 ~7d 1M5 ~8O 1M6 ~8P 1M7 ~7d o 1 1M9 ~7d\nO 7c C ^ S 4v\nO 7c C ^ S 4v o 1 1L4 ~7d\nO 7c C ^ S 4v o 1 1L4 ~7d\nO 7c C ^ S 4v\nO 7c C ^ S 4v\nO 7c C ^ S 4v\nO 7c C ^ S 4v\nO 7c C ^ S 4v\nO 7c C ^ S 4v\nO 7c C ^ S 4v\nO 7c C ^ S 4v\nO 7c C ^ S 4v\nO 7c C ^ S 4v\nO 7c C ^ S 4v\nO 7c C ^ S 4v\nO 7c C ^ S 4v\nO 7c C ^ S 4v o 1 2 ~7d\nO 7c C ^ S 4v\nO 7c C ^ S 4v\nO 7c C ^ S 4v o 1 1L4 ~7d\nO 7c C ^ S 4v\nO 7c C ^ S 4v\nO 7c C ^ S 4v\nO 7c C ^ S 4v\nO 7c C ^ S 4v\nO 7c C ^ S 4v\nO 7c C ^ S 4v o 1 1L4 ~7d\nO 7c C ^ S 4v\nO 7c C ^ S 4v\nO 7c C ^ S 4v o 1 1L4 ~7d\nO 7c C ^ S 4v\nO 7c C ^ S 4v\nO 7c C ^ S 4v\nO 7c C ^ S 4v\nO 7c C ^ S 4v\nO 7c C ^ S 4v o 1 1L4 ~7d\nO 7c C ^ S 4v\nO 7c C ^ S 4v\nO 7c C ^ S 4v\nO 7c C ^ S 4v\nT 5k P 22F 1qE 0 bb 3 1fl bb 5l C q 3M - 1qE a j 1KX 1gO 1KY 1gP 1MS 1gQ pn 1gR 22G 1gS 22H 1gT po 1gU 22I 1gV 22J 1gW 22K 1gX 22L 1gY 22M 1gZ 22N 1h0 22O 1h1 2 ~59 212 ~5j 213 ~5j 214 ~5j 1Xp ~bb\nT 5k P 22P 1qF 0 bb 3 1fm bb 5l C q 3M - 1qF a c 1KX 1gH 1KY 1gI 1MS 1gJ 22Q 1gK 22R 1gL 22S 1gM 22T 1gN 2 ~59 212 ~5j 213 ~5j 214 ~5j 1Xp ~bb\nT 5k P 22U 1qG 0 bb 3 1fn bb 5l C q 3M - 1qG a h 1KX 1gv 1KY 1gw 1MS 1gx 22V 1gy 22W 1gz sC 1gA sE 1gB 1Mz 1gC 22X 1gD 22Y 1gE 22Z 1gF 230 1gG 2 ~59 212 ~5j 213 ~5j 214 ~5j 1Xp ~bb\nT 5k P 231 1b1 0 bb 3 1fo bb 5l C q 3M - 1b1 a c 1KY 1go 1MS 1gp 13z 1gq 13A 1gr 232 1gs 233 1gt 234 1gu 2 ~59 212 ~5j 213 ~5j 214 ~5j 1Xp ~bb\nO fx a 5 11W ~59 235 ~59 Nh ~1fo 1qA ~5j 236 ~59\nT 5k P 237 c1 0 bb 3 1fq bb 5l C q 3M - c1 a p 1KY 1g4 1MS 1g5 VU 1g6 ya 1g7 238 1g8 239 1g9 1r5 1ga 23a 1gb 23b 1gc 23c 1gd 23d 1ge 23e 1gf 23f 1gg 23g 1gh 23h 1gi 23i 1gj 23j 1gk 23k 1gl 23l 1gm 23m 1gn 2 ~59 212 ~5j 213 ~5j 214 ~5j 1Xp ~bb\nT 5k P 23n 1qO 0 bb 3 1fr bb 5l C q 3M - 1qO a b 1KX 1fY 1KY 1fZ 1MS 1g0 11W 1g1 21w 1g2 Nh 1g3 2 ~59 212 ~5j 213 ~5j 214 ~5j 1Xp ~bb\nO 15c a 1 1p1 ~59 o 1 1Yg ~1fw\nO 15c a 1 1p1 ~59 o 1 1Yg 1fv\nO 9I C q 1nl 23o 23p\nO 18s a 1 11W ~59\nT 5k P 23q 9Q 0 hU 4 1fw hU hW 5l C q 7D - 9Q a s 1KX 1fx 1KY 1fy 1PP 1fz 1L2 1fA 1PL 1fB 1OO 1fC eD 1fD 1P2 1fE 1OX 1fF In 1fG 13u 1fH 22d 1fI 13k 1fJ 1OW 1fK 1OZ 1fL 1PM 1fM 1PN 1fN 1OV 1fO 1OQ 1fP 1OP 1fQ 13D 1fR 1LO 1fS 23r 1fT 20I 1fU 1PW 1fV 11W 1fW 1p1 1fX 2 ~59 o 1 1L4 ~59\nO 7c C b S 1fw o 1 1LQ ~7d\nO 6R C d D ^\nO 6R C d D ^\nO 6R C d D ^\nO 6G C d D ^ Y 7c o 2 2 ~7d 1L4 ~7d\nO 6G C d D ^ Y 7c o 2 2 ~7d 1L4 ~7d\nO 6G C d D ^ Y 7c o 2 2 ~7d 1L4 ~7d\nO 6G C d D ^ Y 7c o 2 2 ~7d 1L4 ~7d\nO 6G C d D ^ Y 7c o 2 2 ~7d 1L4 ~7d\nO 6G C d D ^ Y 7c o 2 2 ~7d 1L4 ~7d\nO 6G C d D ^ Y 7c o 2 2 ~7d 1L4 ~7d\nO 6G C d D ^ Y 7c o 2 2 ~7d 1L4 ~7d\nO 6G C d D ^ Y 7c o 1 2 ~7d\nO 6G C d D ^ Y 7c o 1 2 ~7d\nO 6G C d D ^ Y 7c o 1 2 ~7d\nO 6G C d D ^ Y 7c o 1 2 ~7d\nO 6G C d D ^ Y 7c o 1 2 ~7d\nO 6G C d D ^ Y 7c o 1 2 ~7d\nO 6G C d D ^ Y 7c o 1 2 ~7d\nO 6G C d D ^ Y 7c o 2 2 ~7d 1L4 ~7d\nO 6G C d D ^ Y 7c o 1 2 ~7d\nO 6G C d D ^ Y 7c o 2 2 ~7d 1L4 ~7d\nO 6v D ^ Z i\nO 6v D ^ Z k ~8P\nO 6l D ^ Z k ~8P o 1 2 ~7d\nO 6l D ^ Z k ~59 o 1 2 ~7d\nO 6l D ^ Z k ~59 o 1 2 ~7d\nO 7c C b S 1fr o 1 1LQ ~7d\nO 6R C d D ^\nO 6G C d D ^ Y 7c o 2 2 ~7d 1L4 ~7d\nO 6v D ^ Z k ~59 o 1 2 ~59\nO 6v D ^ Z k ~59 o 1 2 ~59\nO 6v D ^ Z k ~59 o 1 2 ~59\nO 6R C d D ^\nO 6G C d D ^ Y 7c o 2 2 ~7d 1L4 ~7d\nO 6v D ^ Z k ~5j o 1 2 ~59\nO 6v D ^ Z k ~5j o 1 2 ~59\nO 6v D ^ Z k ~5j o 1 2 ~59\nO 6v D ^ Z k ~5j o 1 2 ~59\nO 6v D ^ Z k ~5j o 1 2 ~59\nO 6v D ^ Z k ~5j o 1 2 ~59\nO 6v D ^ Z k ~5j o 1 2 ~59\nO 6v D ^ Z k ~5j o 1 2 ~59\nO 6v D ^ Z k ~5j o 1 2 ~59\nO 6v D ^ Z k ~5j o 1 2 ~59\nO 6v D ^ Z k ~5j o 1 2 ~59\nO 6v D ^ Z k ~5j o 1 2 ~59\nO 6v D ^ Z k ~5j o 1 2 ~59\nO 6v D ^ Z k ~8P o 1 2 ~59\nO 6v D ^ Z k ~5j o 1 2 ~59\nO 6v D ^ Z k ~5j o 1 2 ~59\nO 6v D ^ Z k ~8P o 1 2 ~59\nO 6v D ^ Z k ~5j o 1 2 ~59\nO 6R C d D ^\nO 6G C d D ^ Y 7c o 2 2 ~7d 1L4 ~7d\nO 6v D ^ Z k ~5j o 1 2 ~59\nO 6v D ^ Z k ~5j o 1 2 ~59\nO 6v D ^ Z k ~5j o 1 2 ~59\nO 6v D ^ Z k ~59 o 1 2 ~59\nO 6v D ^ Z k ~5j o 1 2 ~59\nO 7c C b S 1fn o 1 1LQ ~7d\nO 6R C d D ^\nO 6G C d D ^ Y 7c o 2 2 ~7d 1L4 ~7d\nO 6v D ^ Z k ~5j o 1 2 ~59\nO 6v D ^ Z k ~5j o 1 2 ~59\nO 6v D ^ Z k ~5j o 1 2 ~59\nO 6v D ^ Z k ~5j o 1 2 ~59\nO 6v D ^ Z k ~5j o 1 2 ~59\nO 6v D ^ Z k ~59 o 1 2 ~59\nO 6v D ^ Z k ~5j o 1 2 ~59\nO 6v D ^ Z k ~5j o 1 2 ~59\nO 6v D ^ Z k ~5j o 1 2 ~59\nO 7c C b S 1fm o 1 1LQ ~7d\nO 6R C d D ^\nO 6G C d D ^ Y 7c o 2 2 ~7d 1L4 ~7d\nO 6v D ^ Z k ~5j o 1 2 ~59\nO 6v D ^ Z k ~5j o 1 2 ~59\nO 6v D ^ Z k ~5j o 1 2 ~59\nO 6v D ^ Z k ~5j o 1 2 ~59\nO 7c C b S 1fl o 1 1LQ ~7d\nO 6R C d D ^\nO 6G C d D ^ Y 7c o 2 2 ~7d 1L4 ~7d\nO 6v D ^ Z k ~17I o 1 2 ~59\nO 6v D ^ Z k ~5j o 1 2 ~59\nO 6v D ^ Z k ~5j o 1 2 ~59\nO 6v D ^ Z k ~17I o 1 2 ~59\nO 6v D ^ Z k ~5j o 1 2 ~59\nO 6v D ^ Z k ~5j o 1 2 ~59\nO 6v D ^ Z k ~5j o 1 2 ~59\nO 6v D ^ Z k ~5j o 1 2 ~59\nO 6v D ^ Z k ~17I o 1 2 ~59\nO 6v D ^ Z k ~5j o 1 2 ~59\nO 6v D ^ Z k ~5j o 1 2 ~59\nO kA a 2 11W ~59 NL ~59\nO 8N a 9 11W ~59 1M1 1h2 1M2 ~59 1M3 ~7d 1M4 ~7d 1M5 ~8O 1M6 ~8P 1M7 ~59 1M8 ~8P\nO 7c C ^ S w o 1 1L4 ~7d\nO 7c C o 3f S 3f\nO 7c C o 3f S 3f\nO 7c C o 3f S 3f\nO 7c C o 3f S 3f\nT 5k P = 1pv 1 8r 4 1h9 8r 8s 5l C ^ a 3 1LQ ~59 1M0 1iH 2 ~7d o 1 2 ~7d\nT 5k P = 1pw 1 1h9 5 1ha 1h9 8r 8s 5l C ^ a 5 1LQ ~59 2 ~59 1L2 1iC 1L6 1iD 1r9 1iE\nT 5k P = 1px 1 1h9 5 1hb 1h9 8r 8s 5l C ^ a 5 1LQ ~59 2 ~59 1L2 1ix 1L6 1iy 1r9 1iz\nT hS P = 1m7 1 1i5 5 1hc 1i5 1i6 1i7 5l C o 4j a 7 1LQ ~59 2 ~59 23s 1i8 23t ~5j 23u ~5j 1MQ ~i2 1P3 ~i3\nO 9I C ^\nO 9I C ^ o 1 2 ~59\nO 9I C o 4u o 1 2 ~59\nO 9I C ^\nO 9I C ^ o 2 2 ~59 1Nr ~9J\nO 9I C ^ o 1 2 ~59\nO 9I C ^ o 2 2 ~59 1Nr ~9J\nT 5k P = 1pI 1 5l 2 1hk 5l C ^ a 8 1LQ ~59 2 ~59 1L2 1hZ 1KY 1i0 1Nq 1i1 23v 1i2 1L3 1i3 1M0 1i4\nO 9I C ^ o 2 2 ~59 1Nr ~9J\nO 9I C ^ o 1 2 ~59\nO 9I C ^ o 2 2 ~59 1Nr ~9J\nO 9I C ^ o 2 2 ~59 1Nr ~9J\nO 9I C ^ o 1 2 ~59\nT 5k P = 1pQ 1 5l 2 1hq 5l C ^ a y 1LQ ~59 2 ~59 23w ~8P 1L2 1hr 1KY 1hs 1Nq 1ht 23x 1hu 23y 1hv 1P8 1hw 1P9 1hx 1Po 1hy 23z 1hz 23A 1hA 23B 1hB 1lu 1hC 23C 1hD Yr 1hE up 1hF 23D 1hG 23E 1hH 23F 1hI 23G 1hJ 23H 1hK 23I 1hL 23J 1hM 23K 1hN 21n 1hO 23L 1hP 23M 1hQ 23N 1hR 23O 1hS 12V 1hT 1L3 1hU 1M0 1hV\nO 9I C ^ o 3 1NE ~bb 2 ~59 1Nr ~9J\nO 9I C ^\nO b0 F Aj a 4 1LQ ~59 1 ~59 1MO ~59 2 ~59\nO 9F o 3 2 ~7d 1Ns 1hX 1Nt 1hY\nO 9I C ^\nO 9I C ^\nO 9I C ^\nO 9I C ^ o 1 1NE ~bb\nO 9I C ^\nO 9I C ^\nO 9I C ^ o 2 1NE ~bb 2 ~59\nO 9I C ^ o 1 2 ~59\nO 9I C ^ o 1 2 ~59\nO 9I C ^ o 2 1NE ~bb 2 ~59\nO 9I C ^ o 2 1NE ~bb 2 ~59\nO 9I C ^\nO 9I C ^ a 1 1NO 1hW o 2 1NB ~bb 2 ~59\nO 9I C ^ o 1 2 ~59\nO 9I C ^ o 1 2 ~59\nO 9I C ^ o 1 2 ~59\nO 9I C ^ o 2 1NE ~bb 2 ~59\nO 9I C ^ o 2 1NE ~bb 2 ~59\nO 9I C ^ o 1 2 ~59\nO 9I C ^ o 1 2 ~59\nO 9I C ^\nO 9I C ^\nO 9I C ^ o 1 2 ~59\nO 9I C ^ o 1 2 ~59\nO 9I C ^ o 1 2 ~59\nO 6l D ^\nO 6l D ^\nO 9I C q 1pm 1pQ 23E o 1 2 ~59\nO 9I C q 1pm 1pQ 23x\nO 9I C q 1pm 1pQ 23x\nO 9I C ^ o 1 1NE ~bb\nO 9I C ^\nO b0 F Aj a 4 1LQ ~59 1 ~59 1MO ~59 2 ~59\nO 9I C ^ o 1 2 ~59\nO 6l D ^\nO 6l D ^\nT hS P = 1m6 1 1i6 4 1i5 1i6 1i7 5l C ^ a c 1LQ ~59 2 ~59 23s ~7d 23t ~7d 23u ~7d 1L2 1is 2Y 1it 2Z 1iu 23P 1iv 1lt 1iw 1MQ ~i2 1P3 ~i3\nT hS P = 1m4 1 1i7 3 1i6 1i7 5l C ^ a c 1LQ ~59 2 ~59 1L2 1ik 23Q 1il 2Y 1im 2Z 1in 23P 1io eD 1ip 23R 1iq 23S 1ir 1MQ ~i2 1P3 ~i3\nT hS P = 1m3 1 5l 2 1i7 5l C ^ a f 1LQ ~59 2 ~59 2Y 1i9 2Z 1ia 23P 1ib 1lt 1ic eD 1id 23T 1ie 23R 1if 1P8 1ig 1P9 1ih 1L3 1ii 1M0 1ij 1MQ ~i2 1P3 ~i3\nO 7c C ^ S 4i\nO 9I C ^ a 1 1Nz ~8P o 2 1NE ~bb 2 ~59\nO 9I C ^ a 1 1Nz ~8P o 1 2 ~59\nO 9I C ^ o 2 1NE ~bb 2 ~59\nO 9I C ^ a 1 1Nz ~8P o 2 1NE ~bb 2 ~59\nO 9I C ^ o 1 2 ~59\nO 9I C ^ o 1 2 ~59\nO 9I C ^ a 1 1Nz ~8P o 1 2 ~59\nO 9I C ^\nO 9I C ^\nO 6l D ^\nO 6l D ^\nO 9I C ^\nO 9I C ^ o 1 2 ~59\nO 9I C ^ o 1 1NE ~bb\nO 9I C ^\nO 9I C ^ o 1 1NE ~bb\nO 9I C ^\nO 9I C ^\nO 9I C ^ o 1 2 ~59\nO 9I C ^ o 1 1NB ~bb\nO 9I C ^ o 2 1NB ~bb 1NE ~bb\nO 9I C ^ o 1 1NB ~bb\nO 9I C ^ o 2 1NB ~bb 1NE ~bb\nO 9I C ^ o 1 1NE ~bb\nO 9I C ^ o 1 1NE ~bb\nO 9I C ^\nO 9F o 3 2 ~7d 1Ns 1iA 1Nt 1iB\nO 9I C q 1pm 1px 1r9\nO 9I C q 1pm 1px 1r9\nO 9I C ^ o 1 1NE ~bb\nO 9I C ^\nO 9F o 2 1Ns 1iF 1Nt 1iG\nO 9I C q 1pm 1pw 1r9 o 1 2 ~59\nO 9I C q 1pm 1pw 1r9\nO 6l D ^\nO kA a 2 11W ~59 NL ~59\nO 8N a 9 11W ~59 1M1 1iI 1M2 ~59 1M3 ~7d 1M4 ~7d 1M5 ~8O 1M6 ~8P 1M7 ~59 1M8 ~8P\nO 7c C ^ S H\nO 7c C ^ S H\nO 7c C ^ S H o 1 1L4 ~7d\nO 7c C ^ S H o 1 1L4 ~7d\nO 7c C ^ S H\nO 7c C ^ S H\nT 5k P = eX 1 8r 4 1iQ 8r 8s 5l C o 4t a 3 1LQ ~59 1M0 1iS 2 ~7d o 1 2 ~7d\nO 7c C ^ S H\nO 6l D ^\nO kA a 2 11W ~59 NL ~59\nO 8N a 9 11W ~59 1M1 1iT 1M2 ~59 1M3 ~7d 1M4 ~7d 1M5 ~8O 1M6 ~8P 1M7 ~59 1M8 ~8P\nO 9I C ^ o 2 1NE ~bb 2 ~59\nT 5k P = UL 1 5l 2 1iW 5l C o 4s a g 1LQ ~59 2 ~59 23U ~59 23V ~59 23W ~7d c1 1j9 1MV 1ja 1L2 1jb 23X 1jc 23Y 1jd 23Z 1je 240 1jf 241 1jg 1L3 1jh 1M0 1ji 2t ~oB\nT 5k P = Vq 1 5l 2 1iX 5l C ^ a d 1LQ ~59 p9 1iY 242 1iZ 243 1j0 244 1j1 245 1j2 246 1j3 247 1j4 mT 1j5 248 1j6 1L3 1j7 1M0 1j8 2 ~7d o 1 2 ~7d\nO 9I C ^\nO 9I C ^\nO 9I C ^ o 1 1NE ~bb\nO 9I C ^\nO 9I C ^\nO 9I C ^\nO 9I C ^\nO 9I C ^\nO 9I C ^\nO 6l D ^ Z k ~9J\nO 6l D ^ Z k ~7d\nO 1jk a 4 1Xa ~5j 1Xb ~59 1N1 1jk 1Xc ~5j\nO b0 F 1jj\nO 9I C ^\nO 9I C ^\nO 9I C ^ o 1 1NE ~bb\nO 9I C ^ o 1 1NE ~bb\nO 9I C ^\nO 9I C ^\nO 6l D ^\nO 6l D ^\nO 9I C q sH UL 1MV o 1 1NB ~bb\nT Gz P = 1dj 1 1jl 7 1jk 1jl 5j 1jm 1jn Fp 5l C ^ a L 1WF 5m 1WG ~8P 1WD 1jo 1WH ~8O 1WI ~9J 1WJ ~9J 1WK ~8O 1WL 5j 1WM 5n 249 1jp 24a ~5j 24b ~5j 24c ~5j 24d ~7d 113 1jq 119 1jr 10S 1js 1Mk 1jq 1Mj 1jr 1Mi 1js 10X 1jt 1LQ ~59 1L6 7B 24e 1ju 2 ~59 1LM 6f 1d3 1jv 1d4 1jw 1d5 1jx 1d6 1jy 1d7 1jz 1d8 1jA 1d9 1jB 18p 1jC 1da 1jD 1db 1jE 1dc 1jF 1dd 1jG 1de 1jH 1df 1jI 1dg 1jJ 1dh 1jK 1di 1jL UZ 1jM 24f 1jN 1KX GE 1KY 1jO\nT Gz P = Ep 1 5j 6 1jl 5j 1jm 1jn Fp 5l C ^ a s 1WD 1jo 1LQ ~59 2 ~59 1WF 5m 1WG ~8P 1WH ~8O 1WI ~9J 1WJ ~9J 1WK ~8O 1WL 5j 1WM 5n 249 1jp 24a ~5j 24c ~5j 24b ~5j 24d ~7d 1L3 1kl 1LM 6f 1L6 5n 1KY 1kf 113 1jq 10S 1js 119 1jr 1Mk 1jq 1Mi 1js 1Mj 1jr 10X 1jt 1KX GE\nT Gz P = E1 1 Fp 3 1jm Fp 5l C ^ a c 1WD GA 1LQ ~59 2 ~59 1WF 7y 1WG ~8P 1WH ~8O 1WI ~9J 1WJ ~9J 1WK ~8O 1WL 5l 1WM ~7d 1KX GE\nT Gz P = DY 1 Fp 3 1jn Fp 5l C ^ a A 1WD 1jo 1LQ ~59 2 ~59 24e 1k8 24g 1k9 24f 1k9 24h 1ka 1WE 1kb 11b 1kc 1L7 1kd 1L9 1ke 1KY 1kf 1L6 1kg 1Mf 1kh 1TI 1ki 113 1jq 10S 1js 119 1jr 10X 1jt 1Mi 1js 1Mk 1jq 1Mj 1jr 1WF 7y 1WG ~8P 1WH ~8O 1WI ~9J 1WJ ~9J 1WK ~8O 1WL 5l 1WM ~7d 249 1k3 24a ~5j 24c ~5j 24b ~5j 24d ~7d 1KX GE\nO 9I C o 1jn o 1 2 ~59\nO 1jZ a 4 1Xa ~59 1Xb ~59 1N1 1jZ 1Xc ~5j o 1 1TK ~59\nO 9I C o 1jn\nO 9I C o 1jn\nO 9I C o 1jn\nO 9I C o 1jn\nO 7c C ^ S X\nO GI I k 1jP R k 1jP a 8 1Ns ~7d 1Nt ~7d 1Ny ~7d 2 ~7d 1X8 ~8P 1Nz ~8P 11W ~59 1X9 ~59\nO GI I k 1jQ R k 1jQ a 8 1Ns ~7d 1Nt ~7d 1Ny ~7d 2 ~7d 1X8 ~8P 1Nz ~8P 11W ~59 1X9 ~59\nO GI I k 1jQ R k 1jQ a 8 1Ns ~7d 1Nt ~7d 1Ny ~7d 2 ~7d 1X8 ~8P 1Nz ~8P 11W ~59 1X9 ~59\nO GI I k 1j9 R k 1j9 a 8 1Ns ~7d 1Nt ~7d 1Ny ~7d 2 ~7d 1X8 ~8P 1Nz ~8P 11W ~59 1X9 ~59\nO GI I k 1j9 R k 1j9 a 8 1Ns ~7d 1Nt ~7d 1Ny ~7d 2 ~7d 1X8 ~8P 1Nz ~8P 11W ~59 1X9 ~59\nO GI I k 1jR R k 1jR a 8 1Ns ~7d 1Nt ~7d 1Ny ~7d 2 ~7d 1X8 ~8P 1Nz ~8P 11W ~59 1X9 ~59\nO GI I k 1jR R k 1jR a 8 1Ns ~7d 1Nt ~7d 1Ny ~7d 2 ~7d 1X8 ~8P 1Nz ~8P 11W ~59 1X9 ~59\nO GI I k 1jS R k 1jS a 8 1Ns ~7d 1Nt ~7d 1Ny ~7d 2 ~7d 1X8 ~8P 1Nz ~8P 11W ~59 1X9 ~59\nO GI I k 1jS R k 1jS a 8 1Ns ~7d 1Nt ~7d 1Ny ~7d 2 ~7d 1X8 ~8P 1Nz ~8P 11W ~59 1X9 ~59\nO GI I k 1jT R k 1jT a 8 1Ns ~7d 1Nt ~7d 1Ny ~7d 2 ~7d 1X8 ~8P 1Nz ~8P 11W ~59 1X9 ~59\nO GI I k 1jT R k 1jT a 8 1Ns ~7d 1Nt ~7d 1Ny ~7d 2 ~7d 1X8 ~8P 1Nz ~8P 11W ~59 1X9 ~59\nO GI I k 1jU R k 1jU a 8 1Ns ~7d 1Nt ~7d 1Ny ~7d 2 ~7d 1X8 ~8P 1Nz ~8P 11W ~59 1X9 ~59\nO GI I k 1jU R k 1jU a 8 1Ns ~7d 1Nt ~7d 1Ny ~7d 2 ~7d 1X8 ~8P 1Nz ~8P 11W ~59 1X9 ~59\nO GI I k 1jV R k 1jV a 8 1Ns ~7d 1Nt ~7d 1Ny ~7d 2 ~7d 1X8 ~8P 1Nz ~8P 11W ~59 1X9 ~59\nO GI I k 1jV R k 1jV a 8 1Ns ~7d 1Nt ~7d 1Ny ~7d 2 ~7d 1X8 ~8P 1Nz ~8P 11W ~59 1X9 ~59\nO GI I k 1jW R k 1jW a 8 1Ns ~7d 1Nt ~7d 1Ny ~7d 2 ~7d 1X8 ~8P 1Nz ~8P 11W ~59 1X9 ~59\nO GI I k 1jW R k 1jW a 8 1Ns ~7d 1Nt ~7d 1Ny ~7d 2 ~7d 1X8 ~8P 1Nz ~8P 11W ~59 1X9 ~59\nO GI I k 1jX R k 1jX a 8 1Ns ~7d 1Nt ~7d 1Ny ~7d 2 ~7d 1X8 ~8P 1Nz ~8P 11W ~59 1X9 ~59\nO WO C q DS DY 24h F 1jY S 1jk\nO 9I C ^ o 1 2 ~59\nO 1jk a 4 1Xa ~5j 1Xb ~59 1N1 1jk 1Xc ~5j\nO 1jk a 4 1Xa ~5j 1Xb ~59 1N1 1jk 1Xc ~5j\nO 1jk a 4 1Xa ~5j 1Xb ~59 1N1 1jk 1Xc ~5j\nO 1jk a 4 1Xa ~5j 1Xb ~59 1N1 1jk 1Xc ~5j\nO 1jk a 4 1Xa ~5j 1Xb ~59 1N1 1jk 1Xc ~5j\nO 1jk a 4 1Xa ~5j 1Xb ~59 1N1 1jk 1Xc ~5j\nO 1jk a 4 1Xa ~5j 1Xb ~59 1N1 1jk 1Xc ~5j\nO 1jk a 4 1Xa ~5j 1Xb ~59 1N1 1jk 1Xc ~5j\nO 1jk a 4 1Xa ~5j 1Xb ~59 1N1 1jk 1Xc ~5j\nO 9I C q DS DY 24h o 1 2 ~59\nT Gz P = El 1 1k0 6 1jZ 1k0 59 1jm Fp 5l C ^ a i 1WD 1k1 1LQ ~59 2 ~59 1WF 1k2 1WG ~8P 1WH ~8O 1WI ~9J 1WJ ~9J 1WK ~8O 1WL 59 1WM bP Em 1k3 En 1k4 DZ 1k5 Eo 1jp 1L6 bR 1LM cS 1KX GE\nT Gz P = Ej 1 59 5 1k0 59 1jm Fp 5l C ^ a i 1WD 1k1 1LQ ~59 2 ~59 1KX GE 1WF 1k2 1WG ~8P 1WH ~8O 1WI ~9J 1WJ ~9J 1WK ~8O 1WL 59 1WM bP 1L3 1k6 1M0 1k7 1LM cS 1L6 bR 1KY Hu 24i 1k2\nO 9I C o 1k0 o 1 2 ~59\nO 9I C q DS Ej 1KX o 1 2 ~59\nO 1jZ o 1 1TK ~59\nO 1jZ o 1 1TK ~59\nO 1jZ o 1 1TK ~59\nO 6l D ^ I k ~9J\nO 6l D ^ I k ~7d\nO 7c C ^ S X\nO b0 F 1kk a 5 1LQ ~59 1 ~59 1MO ~59 2 ~59 RL ~9J\nO b0 F 1jY a 5 1LQ ~59 1 ~59 1MO ~59 2 ~59 RL ~9J\nO b0 F 1kj a 5 1LQ ~59 1 ~59 1MO ~59 2 ~59 RL ~9J\nO 9I C ^ o 1 2 ~59\nO 9I C ^ o 1 2 ~59\nO 9I C ^\nO 9I C o 1jn\nO 9I C ^\nO 9I C ^\nO 9I C ^\nO 9I C q DS DY 1WE o 1 2 ~59\nO 9I C q DS DY 24g o 1 2 ~59\nO 6l D ^ I k ~9J\nO kA a 2 11W ~59 NL ~59\nO 8N a 9 11W ~59 1M1 1km 1M2 ~59 1M3 ~7d 1M4 ~7d 1M5 ~8O 1M6 ~8P 1M7 ~59 1M8 ~8P\nT hS P = ID 1 1nG 6 1ko 1nG 1nH 1nI 1nJ 5l C ^ a X 1LQ ~59 2 ~59 1On ~bb 1KX 1nK 24j 1nL 24k 1nM 1Mt 1nN 24l 1nO 1MA 1nP 1MB 1nQ 1KY 1nR 1L6 1nS 24m 1nT 24n 1nU 10R 1nV 1Ma 1nW 24o 1nX 117 1nY 1Mb 1nZ 24p 1o0 110 1o1 1La 1o2 24q 1o3 118 1o4 1Mo 1o5 24r 1o6 10U 1o7 1Mn 1o8 24s 1o9 1Mc 1oa 1Md 1ob 24t 1oc 10Z 1od 1L8 1oe 115 1of 1Me 1og 114 1oh 112 1oi 10Q 1oj 1Ml 1ok 1Mu 1ol 1Mv 1om 1Mw 1on 1Mx 1oo 1L5 1op 10L 1oq 24u 1or 10J 1os 10O 1ot 10K 1ou 10N 1ov 1Mf 1ow 1MS 1ox 1Rb 1oy 1Rc 1oz 24v 1oA 24w 1oB 1MQ ~i2 1P3 ~i3\nT 5k P 24x 65 0 5l 2 1kp 5l C ^ a 1C 1KX 1m6 1KY 1m7 1L5 1m8 1L6 1m9 1KZ 1ma 10J 1mb 10K 1mc 10L 1md 10M 1me 10O 1mf 10N 1mg 10R 1mh 1Ma 1mi 117 1mj 1Mb 1mk 110 1ml 1La 1mm 10Z 1mn 1L8 1mo 1Mc 1mp 1Md 1mq 115 1mr 1Me 1ms 112 1mt 114 1mu 10Q 1mv 1Mf 1mw 1Ml 1mx 1Mm 1my 10U 1mz 1Mn 1mA 118 1mB 1Mo 1mC sk 1mD 24y 1mE sq 1mF 24z 1mG 24A 1mH UA 1mI 24B 1mJ 24C 1mK 24D 1mL sw 1mM 24E 1mN 24F 1mO pn 1mP 24G 1mQ po 1mR 24H 1mS 24I 1mT 24J 1mU 24K 1mV 24L 1mW 24M 1mX 24N 1mY 24O 1mZ 24P 1n0 24Q 1n1 24R 1n2 24S 1n3 24T 1n4 24U 1n5 24V 1n6 24W 1n7 24X 1n8 1Mp 1n9 22N 1na 24Y 1nb 24Z 1nc 250 1nd 251 1ne 252 1nf 253 1ng 254 1nh 255 1ni 256 1nj 257 1nk 258 1nl 259 1nm 25a 1nn 1YU 1no 25b 1np 25c 1nq 24j 1nr 25d 1ns 1Mt 1nt 1Rb 1nu 1Rc 1nv 1LM 1nw 1MS 1nx 1Mx 1ny 1Mw 1nz 1Mv 1nA 1Mu 1nB 1Ye 1nC 1LO 1nD 1My 1nE 1Mz 1nF 2 ~59 1LQ ~59 o 1 1L4 ~59\nT 5k P 25e Rm 0 5l 2 1kq 5l C ^ a 7 1KX 1m0 1KZ 1m1 1L7 1m2 1PP 1m3 1MS 1m4 1N8 1m5 2 ~59 o 1 1L4 ~59\nT 5k P 25f ro 0 5l 2 1kr 5l C o 2n a 8 1KX 1lT 1KY 1lU 1KZ 1lV 1L7 1lW 1PP 1lX 25g 1lY 1MS 1lZ 2 ~59\nO 7c C ^ S 3\nO 7c C ^ S 3\nO 7c C ^ S 2V o 1 1L4 ~7d\nO 7c C ^ S 2V\nO 7c C ^ S 2V\nO 7c C ^ S 2V\nO 7c C ^ S 2V\nO 7c C ^ S 2V o 1 1L4 ~7d\nO 7c C ^ S 2V\nO 7c C ^ S j o 1 1L4 ~7d\nO 7c C ^ S u\nT 5k P = 1oJ 1 152 5 1kD 152 8r 8s 5l C ^ a 3 1LQ ~59 1M0 1lS 2 ~7d o 1 2 ~7d\nO 9I C ^ o 1 2 ~59\nO 9I C ^ o 2 1NE ~bb 2 ~59\nO 9I C ^\nO 9I C ^ o 1 2 ~59\nO 9I C ^ o 1 2 ~59\nO 9I C ^ o 1 2 ~59\nO 9I C ^ o 2 1NE ~bb 2 ~59\nO 9I C ^ o 1 2 ~59\nO 9I C ^ o 1 2 ~59\nO 9I C ^ o 1 2 ~59\nO 9I C ^ o 1 2 ~59\nO 9I C ^ o 2 1NE ~bb 2 ~59\nO 9I C ^ o 1 2 ~59\nO 9I C ^ o 2 1NE ~bb 2 ~59\nO 9I C ^ o 1 2 ~59\nO 9I C ^ o 1 2 ~59\nO 9I C ^ o 1 2 ~59\nO 9I C ^ o 2 1NE ~bb 2 ~59\nO 9I C ^ o 1 2 ~59\nO 9I C ^ o 1 2 ~59\nO 9I C ^ o 2 2 ~59 1Nr ~9J\nO 9I C ^ o 2 1NE ~bb 2 ~59\nO 9I C ^ o 2 1NE ~bb 2 ~59\nO 9I C ^ o 2 1NE ~bb 2 ~59\nO 9I C ^ o 2 1NE ~bb 2 ~59\nO 9I C ^ o 1 2 ~59\nO 9I C ^ o 1 2 ~59\nO 9I C ^ o 1 2 ~59\nT 5k P = 1pb 1 bb 3 1l6 bb 5l C ^ a e 2 ~59 1On ~bb 1Xk ~bb 1Xl ~9J 1KX 1lI 1Xm 1lJ 1Xn 1lK 1KY 1lL 1Xo 1lM 1LP 1lN 1Xp ~bb 25h 1lO 25i 1lP 1LQ ~59\nO 9I C ^ o 2 2 ~59 1Nr ~9J\nO 7c C ^ S F o 1 2 ~7d\nT 5k P = 1pd 1 5l 2 1l9 5l C ^ a x 1LQ ~59 2 ~59 1On ~9J 1L2 1la 25j 1lb 25k 1lc 25l 1ld 25m 1le 25n 1lf 1p3 1lg 25o 1lh 25p 1li 1oT 1lj 1oX 1lk 1p1 1ll 1p6 1lm 1p4 1ln 10R 1lo 117 1lp 110 1lq 118 1lr 114 1ls 112 1lt 1Ma 1lo 1Mb 1lu 1La 1lq 10L 1lv 1L5 1lw 1KY 1lx 1MT 1ly 1N8 1lz 25q 1lA 25r 1lB\nO 9I C ^ o 2 1NE ~bb 2 ~59\nO b0 F 1lH a 5 1LQ ~59 1 ~59 1MO ~59 2 ~59 RL ~9J\nO 9I C ^ o 2 2 ~59 1Nr ~9J\nO 9I C ^ o 1 2 ~59\nO 9I C ^ o 1 2 ~59\nO 9I C ^ o 1 2 ~59\nO 9I C ^ o 2 1NE ~bb 2 ~59\nO 9I C ^ o 1 2 ~59\nO 9I C ^ o 1 2 ~59\nO 9F o 1 1Ns 1lG\nO 9F o 1 1Ns 1lF\nO 9F o 1 1Ns 1lE\nO 9F o 1 1Ns 1lD\nO 9F o 1 1Ns 1lC\nO 9I C ^ o 1 2 ~59\nO 9I C ^ o 1 2 ~59\nO 9I C ^ o 1 2 ~59\nO 9I C ^ o 1 2 ~59\nO 9I C ^ o 1 2 ~59\nO 9I C ^ o 1 2 ~59\nO 9I C ^ o 1 2 ~59\nO 9I C ^ o 1 2 ~59\nO 9I C ^ o 1 2 ~59\nO 9I C ^\nO 9I C ^\nO 9I C ^\nO 6v D ^\nO 6v D ^\nO 9I C q 1oH 1pd 1p4 o 1 2 ~59\nO 9I C q 1oH 1pd 1p6 o 1 2 ~59\nO 9I C q 1oH 1pd 1p1 o 1 2 ~59\nO 9I C q 1oH 1pd 1oX o 1 2 ~59\nO 9I C q 1oH 1pd 1oT o 1 2 ~59\nO 9I C q 1oH 1pd 25j o 1 2 ~59\nO bz C t 1NP F 1lR\nO b0 F 1lQ a 5 1LQ ~59 1 ~59 1MO ~59 2 ~7d RL ~9J\nO 9I C q tH 1pb 1Xn o 2 1NB ~bb 2 ~59\nO 9I C q tH 1pb 1KY o 2 1NB ~bb 2 ~59\nO 9I C q tH 1pb 1Xo o 2 1NB ~bb 2 ~59\nO 9I C q tH 1pb 1LP o 2 1NB ~bb 2 ~59\nO Jp\nO Jp\nO 9I C q tH 1pb 1Xm o 2 1NB ~bb 2 ~59\nO 9I C q 25s 1pb 1KX o 1 2 ~59\nO 6l D ^\nO 7c C b S 1kr o 1 1LQ ~7d\nO 6R C d D ^\nO 6R C d D ^\nO 6R C d D ^\nO 6R C d D ^\nO 6G C d D ^ o 1 1L4 ~7d\nO 6G C d D ^ o 1 1L4 ~7d\nO 7c C b S 1kq o 1 1LQ ~7d\nO 6R C d D ^\nO 6R C d D ^\nO 6R C d D ^\nO 6G C d D ^ o 1 1L4 ~7d\nO 6G C d D ^ o 1 1L4 ~7d\nO 7c C b S 1kp o 1 1LQ ~7d\nO 6R C d D ^\nO 6R C d D ^\nO 6R C d D ^\nO 6R C d D ^\nO 6R C d D ^\nO 6R C d D ^\nO 6R C d D ^\nO 6R C d D ^\nO 6R C d D ^\nO 6R C d D ^\nO 6R C d D ^\nO 6R C d D ^\nO 6R C d D ^\nO 6R C d D ^\nO 6R C d D ^\nO 6R C d D ^\nO 6R C d D ^\nO 6R C d D ^\nO 6R C d D ^\nO 6R C d D ^\nO 6R C d D ^\nO 6R C d D ^\nO 6R C d D ^\nO 6R C d D ^\nO 6R C d D ^\nO 6R C d D ^\nO 6R C d D ^\nO 6R C d D ^\nO 6R C d D ^\nO 6R C d D ^\nO 6R C d D ^\nO 6R C d D ^\nO 6G C d D ^\nO 6G C d D ^\nO 6G C d D ^\nO 6G C d D ^\nO 6G C d D ^\nO 6G C d D ^\nO 6G C d D ^\nO 6G C d D ^\nO 6G C d D ^\nO 6G C d D ^\nO 6G C d D ^\nO 6G C d D ^\nO 6G C d D ^\nO 6G C d D ^\nO 6G C d D ^\nO 6G C d D ^\nO 6G C d D ^\nO 6G C d D ^\nO 6G C d D ^\nO 6G C d D ^\nO 6G C d D ^\nO 6G C d D ^\nO 6G C d D ^\nO 6G C d D ^\nO 6G C d D ^\nO 6G C d D ^\nO 6G C d D ^\nO 6G C d D ^\nO 6G C d D ^\nO 6G C d D ^\nO 6G C d D ^\nO 6G C d D ^\nO 6G C d D ^\nO 6G C d D ^\nO 6G C d D ^\nO 6G C d D ^\nO 6G C d D ^\nO 6G C d D ^\nO 6G C d D ^\nO 6G C d D ^\nO 6G C d D ^\nO 6G C d D ^\nO 6G C d D ^\nO 6G C d D ^\nO 6G C d D ^\nO 6G C d D ^\nO 6G C d D ^\nO 6G C d D ^\nO 6G C d D ^\nO 6G C d D ^\nO 72 C d D ^ Y 7c o 1 1L4 ~59\nO 6G C d D ^\nO 6G C d D ^\nO 6G C d D ^ o 2 2 ~7d 1L4 ~7d\nO 6G C d D ^ o 2 2 ~7d 1L4 ~7d\nO 6G C d D ^ o 2 2 ~7d 1L4 ~7d\nO 6G C d D ^ o 2 2 ~7d 1L4 ~7d\nO 6G C d D ^ o 2 2 ~7d 1L4 ~7d\nO 6G C d D ^ o 2 2 ~7d 1L4 ~7d\nO 6G C d D ^ o 2 2 ~7d 1L4 ~7d\nO 6G C d D ^ o 2 2 ~7d 1L4 ~7d\nO 6G C d D ^ o 2 2 ~7d 1L4 ~7d\nO 6G C d D ^ o 2 2 ~7d 1L4 ~7d\nO 6l D ^ o 1 2 ~7d\nO 6l D ^ o 1 2 ~7d\nT hS P = 10E 1 1nH 5 1nG 1nH 1nI 1nJ 5l C ^ a 8 1LQ ~59 2 ~59 1On ~bb 1MA 1pl 1MB 1pm 1Mm 1pn 1MQ ~i2 1P3 ~i3\nT hS P = 10D 1 1nI 4 1nH 1nI 1nJ 5l C ^ a m 1LQ ~59 2 ~59 1On ~bb 1Mm 1p2 1Mu 1p3 1Mv 1p4 1Mw 1p5 1Mx 1p6 1Mc 1p7 1Md 1p8 10U 1p9 1Mn 1pa 10Z 1pb 1L8 1pc 10J 1pd 10K 1pe 1Ye 1pf 1My 1pg 1Mz 1ph 1Mp 1pi 1MQ ~i2 1P3 ~i3\nT hS P = 10C 1 1nJ 3 1nI 1nJ 5l C ^ a p 1LQ ~59 2 ~59 1On ~bb 1Ye 1oH 1Mf 1oI 1My 1oJ 1Mz 1oK 10R 1oL 1Ma 1oM 112 1oN 114 1oO 117 1oP 1Mb 1oQ 110 1oR 1La 1oS 118 1oT 1Mo 1oU 115 1oV 1Me 1oW 10Q 1oX 1Mp 1oY 10L 1oZ 1L5 ~7d 1MQ ~i2 1P3 ~i3\nT hS P = 10B 1 5l 2 1nJ 5l C ^ a 6 1LQ ~59 2 ~59 1On ~bb 1L5 ~7d 1MQ ~i2 1P3 ~i3\nO bz C t 1NP F 1oG\nO b0 F 1oF a 5 1LQ ~59 1 ~59 1MO ~59 2 ~59 RL ~9J\nO b0 F 1oE a 5 1LQ ~59 1 ~59 1MO ~59 2 ~59 RL ~9J\nO 9I C ^ o 1 2 ~59\nO 9I C ^ o 2 1NE ~bb 2 ~59\nO 9F o 2 2 ~7d 1Ns 1oD\nO 9F o 2 2 ~7d 1Ns 1oC\nO 9I C ^ o 1 2 ~59\nO 9I C ^ o 1 2 ~59\nO 9I C ^ o 1 2 ~59\nO 9I C ^ o 1 2 ~59\nO 9I C q Ix 25t 25u o 2 1NB ~bb 2 ~59\nO 9I C q Ix 25t 1No o 2 1NB ~bb 2 ~59\nO 9I C ^ o 1 2 ~59\nO 9I C q Ix 25t 25u o 2 1NB ~bb 2 ~59\nO 9I C q Ix 25t 1No o 2 1NB ~bb 2 ~59\nO 9I C ^ o 1 2 ~59\nO 9I C q Ix 25t 25u o 2 1NB ~bb 2 ~59\nO 9I C q Ix 25t 1No o 2 1NB ~bb 2 ~59\nO 9I C ^ o 1 2 ~59\nO 9I C q Ix 25t 25u o 2 1NB ~bb 2 ~59\nO 9I C q Ix 25t 1No o 2 1NB ~bb 2 ~59\nO 9I C ^ o 1 2 ~59\nO 9I C q Ix 25t 25u o 2 1NB ~bb 2 ~59\nO 9I C q Ix 25t 1No o 2 1NB ~bb 2 ~59\nO 9I C ^ o 1 2 ~59\nO 9I C q Ix 25t 25u o 2 1NB ~bb 2 ~59\nO 9I C q Ix 25t 1No o 2 1NB ~bb 2 ~59\nO 9I C ^ o 1 2 ~59\nO 9I C q Ix 25t 25u o 2 1NB ~bb 2 ~59\nO 9I C q Ix 25t 1No o 2 1NB ~bb 2 ~59\nO 9I C ^ o 1 2 ~59\nO 9I C ^ o 1 2 ~59\nO 9I C ^ o 1 2 ~59\nO 9I C ^ o 1 2 ~59\nO 9I C ^ o 1 2 ~59\nO 9I C ^ o 2 1NE ~bb 2 ~59\nO 9I C ^ o 1 2 ~59\nO 9I C ^ o 1 2 ~59\nO 9I C ^ o 1 2 ~59\nO 9I C ^ o 2 1NE ~bb 2 ~59\nO 9I C ^ o 1 2 ~59\nO 9I C ^ o 1 2 ~59\nO 9I C ^ o 1 2 ~59\nO 9I C ^ o 1 2 ~59\nO 9I C ^ o 1 2 ~59\nO 9I C ^ o 1 2 ~59\nO 9I C ^ o 1 2 ~59\nO 9I C ^ o 1 2 ~59\nO 9I C ^\nO 9I C ^\nO 9I C ^\nO 6v D ^\nO 6v D ^\nO 9I C q Ix ID 1MB\nO 9I C q Ix ID 1MA\nO 9I C q Ix ID 24k o 1 2 ~59\nO 9I C q Ix ID 24j o 1 2 ~59\nO 9I C q Ix ID 1KX o 4 1NB ~bb 1NE ~bb 2 ~59 1Nr ~9J\nO 9I C ^ a 1 1Nz ~8P o 1 2 ~59\nO 9I C ^ o 1 2 ~59\nO 9F o 1 1Ns 1p1\nO 9F o 1 1Ns 1p0\nO 9I C ^ a 1 1Nz ~8P o 1 2 ~59\nO 9I C ^ a 1 1Nz ~8P o 1 2 ~59\nO 9I C ^ a 1 1Nz ~8P o 1 2 ~59\nO 9I C ^ a 1 1Nz ~8P o 1 2 ~59\nO 9I C ^ o 1 2 ~59\nO 9I C ^ o 1 2 ~59\nO 9I C ^ a 1 1Nz ~8P o 1 2 ~59\nO 9I C ^ a 1 1Nz ~8P o 1 2 ~59\nO 9I C ^ a 1 1Nz ~8P o 1 2 ~59\nO 9I C ^ a 1 1Nz ~8P o 1 2 ~59\nO 9I C ^ a 1 1Nz ~8P o 1 2 ~59\nO 9I C ^ a 1 1Nz ~8P o 1 2 ~59\nO 9I C ^ a 1 1Nz ~8P o 1 2 ~59\nO 9I C ^ a 1 1Nz ~8P o 1 2 ~59\nO 9I C ^ a 1 1Nz ~8P o 1 2 ~59\nO 9I C q Iz 10C 1Mz a 1 1Nz ~8P o 1 2 ~59\nO 9I C q Iz 10C 1My a 1 1Nz ~8P o 1 2 ~59\nO 9I C ^ a 1 1Nz ~8P o 1 2 ~59\nO 9I C ^ a 1 1Nz ~8P o 1 2 ~59\nO 9I C ^ a 1 1Nz ~8P o 1 2 ~59\nO 9I C ^ a 1 1Nz ~8P o 1 2 ~59\nO 9I C ^ a 1 1Nz ~8P o 2 1NE ~bb 2 ~59\nO 9I C ^ o 1 2 ~59\nO 9I C ^ o 1 2 ~59\nO 9I C ^ a 1 1Nz ~8P o 1 2 ~59\nO 9I C ^ a 1 1Nz ~8P o 1 2 ~59\nO 9I C ^ a 1 1Nz ~8P o 1 2 ~59\nO 9I C ^ a 1 1Nz ~8P o 1 2 ~59\nO 9I C ^ a 1 1Nz ~8P o 1 2 ~59\nO 9I C ^ a 1 1Nz ~8P o 1 2 ~59\nO 9I C ^ o 1 2 ~59\nO 9F o 1 1Ns 1pk\nO 9F o 1 1Ns 1pj\nO 9I C ^ o 1 2 ~59\nO 9I C q Iz 10D 1Mz o 1 2 ~59\nO 9I C q Iz 10D 1My o 1 2 ~59\nO 9F o 2 2 ~7d 1Ns 1pp\nO 9F o 2 2 ~7d 1Ns 1po\nO 9I C ^ o 1 2 ~59\nO 9I C q Iz 10E 1MB a 1 1Nz ~8P\nO 9I C q Iz 10E 1MA a 1 1Nz ~8P\nO 8N a 9 11W ~59 1M1 d6 1M2 ~59 1M3 1pE 1M4 ~7d 1M5 ~8O 1M6 ~8P 1M7 ~7d 1M8 ~8P o 1 1M9 ~7d\nO 7c C ^ S E o 1 1L4 ~7d\nO 7c C ^ S E o 1 1L4 ~7d\nO 7c C ^ S E o 1 1L4 ~7d\nO 7c C ^ S E o 1 1L4 ~7d\nO 7c C ^ S E o 1 1L4 ~7d\nO 7c C ^ S E o 1 1L4 ~7d\nO 7c C ^ S E o 1 1L4 ~7d\nO 7c C ^ S E o 1 1L4 ~7d\nO 7c C ^ S E o 1 1L4 ~7d\nO 7c C ^ S E o 1 1L4 ~7d\nO 7c C ^ S E o 1 1L4 ~7d\nO 7c C ^ S E o 1 1L4 ~7d\nO 7c C ^ S E o 1 1L4 ~7d\nO fx a 2 Ik ~59 1Oj ~59\nO kA a 2 11W ~59 NL ~59\nO 8N a 9 11W ~59 1M1 1pF 1M2 ~59 1M3 ~7d 1M4 ~7d 1M5 ~8O 1M6 ~8P 1M7 ~59 1M8 ~8P\nT 5k P = 1o8 1 5l 2 1pH 5l C ^ a m 1LQ ~59 2 ~59 f0 ~7d 1L2 1s1 25v 1s2 25w 1s3 VV 1s4 25x 1s5 25y 1s6 25z 1s7 25A 1s8 25B 1s9 25C 1sa 25D 1sb 25E 1sc 25F 1sd 25G 1se 25H 1sf 1P8 1sg 1P9 1sh 1L3 1si 1M0 1sj\nT 5k P = 1o9 1 1pH 3 1pI 1pH 5l C ^ a f 1LQ ~59 2 ~59 25I 1qM 25J 1rN 25K ~5j 25L ~8P 25M ~8P 1L2 1rT 25N 1rU 25v 1rV 25D 1rW In 1rX 25O 1rY 25F 1rZ 25G 1s0\nT 5k P = 1oa 1 1pI 4 1pJ 1pI 1pH 5l C ^ a a 1LQ ~59 2 ~59 25L ~8P 25M ~8P 25J 1rA 25P ~5j 25O 1rB 25v 1rC 25F 1rD 25G 1rE\nT 5k P = 1ob 1 5l 2 1pK 5l C ^ a d 1LQ ~59 2 ~59 f0 ~5j Y0 ~7d 25Q ~5j 25R ~8P 25S 1rt 25A 1ru 25x 1rv 25C 1rw 25D 1rx 1L3 1ry 1M0 1rz\nT 5k P = 1oc 1 8O 3 1pL 8O 5l C ^ a 8 1LQ ~59 2 ~59 1Nk 1rn 25T 1ro 10i 1rp 25U 1rq 1L3 1rr 1M0 1rs\nT 5k P = 1od 1 5l 2 1pM 5l C ^ a 6 1LQ ~59 2 ~59 1Nk 1rj 10i 1rk 1L3 1rl 1M0 1rm\nT 5k P = 1oe 1 5l 2 1pN 5l C ^ a a 1LQ ~59 2 ~59 25V ~8P 25R ~8P 25W ~1pM 25X 1re 25C 1rf 25D 1rg 1L3 1rh 1M0 1ri\nT 5k P = 1of 1 1pK 6 1pO 1pK 1pJ 1pI 1pH 5l C ^ a 2 1LQ ~59 2 ~7d o 1 2 ~7d\nT 5k P = 1og 1 1pK 5 1pP 1pK 1pI 1pH 5l C ^ a 2 1LQ ~59 2 ~7d o 1 2 ~7d\nT 5k P = 1oh 1 1pN 6 1pQ 1pN 1pJ 1pI 1pH 5l C ^ a 2 1LQ ~59 2 ~7d o 1 2 ~7d\nT 5k P = W2 1 1pN 5 1pR 1pN 1pI 1pH 5l C o 4p a 2 1LQ ~59 2 ~7d o 1 2 ~7d\nT 5k P = 1oi 1 1pI 4 1pS 1pI 1pH 5l C ^ a 3 1LQ ~59 25I 1qe 2 ~7d o 1 2 ~7d\nT 5k P = 1oj 1 1pJ 5 1pT 1pJ 1pI 1pH 5l C ^ a 3 1LQ ~59 25I 1qe 2 ~7d o 1 2 ~7d\nT 5k P = 1ok 1 1pN 6 1pU 1pN 1pS 1pI 1pH 5l C ^ a 2 1LQ ~59 2 ~7d o 1 2 ~7d\nT 5k P = 1ol 1 1pN 7 1pV 1pN 1pT 1pJ 1pI 1pH 5l C ^ a 2 1LQ ~59 2 ~7d o 1 2 ~7d\nT 5k P = 1om 1 5l 2 1pW 5l C ^ a 8 1LQ ~59 2 ~59 1L2 1q8 25Y 1q9 25Z 1qa 260 1qb 1L3 1qc 1M0 1qd\nT 5k P = W3 1 1pW 3 1pX 1pW 5l C o 4p a 8 1LQ ~59 2 ~59 261 ~5j 262 ~5j f0 ~7d 263 ~8P 25Y 1q6 260 1q7\nT hS P = 1on 1 hT 6 1pY hT hU hV hW 5l C ^ a 8 1LQ ~59 2 ~59 1L2 1q2 1P5 1q3 13o 1q4 In 1q5 1MQ ~i2 1P3 ~i3\nT 5k P = 1oo 1 1pW 3 1pZ 1pW 5l C ^ a 4 1LQ ~59 2 ~59 25Y 1q0 260 1q1\nO 9I C ^\nO 9I C ^\nO 9I C ^\nO 9I C ^\nO 9I C ^\nO 9I C ^\nO 9I C ^\nO 9I C ^\nO 9I C ^\nO 9I C ^\nO 9I C ^\nO 9I C ^\nO 6l D ^\nO 6l D ^\nO 1qf a 4 1Xa ~5j 1Xb ~59 1N1 1qf 1Xc ~5j\nT Gz P = 1nN 1 1qg 6 1qf 1qg 5j 1jm Fp 5l C ^ a H 1WF 5m 1WG ~8P 1WD GA 1WH ~8O 1WI ~9J 1WJ ~9J 1WK ~8O 1WL 5j 1WM 5n 1LQ ~59 2 ~59 1LM 6f f5 1qh f7 1qi f6 1qj f8 1qk f9 1ql fa 1qm fb 1qn fc 1qo fd 1qp ff 1qq fg 1qr fh 1qs fj 1qt fk 1qu fl 1qv fm 1qw fv 1qx fI 1qy fw 1qz fx 1qA fy 1qB fG 1qC fz 1qD fA 1qE fB 1qF fC 1qG fD 1qH fE 1qI fR 1qJ fe 1qK 1KX GE\nT Gz P = mQ 1 5j 5 1qg 5j 1jm Fp 5l C o 1G a g 1WD GA 1LQ ~59 2 ~59 1WF 5m 1WG ~8P 1WH ~8O 1WI ~9J 1WJ ~9J 1WK ~8O 1WL 5j 1WM 5n 1L3 1rd 1LM 6f 1L6 5n 1KY Hu 1KX GE\nO GI I k 1qL R k 1qL a 8 1Ns ~7d 1Nt ~7d 1Ny ~7d 2 ~7d 1X8 ~8P 1Nz ~8P 11W ~59 1X9 ~59\nO GI I k 1qe R k 1qe a 8 1Ns ~7d 1Nt ~7d 1Ny ~7d 2 ~7d 1X8 ~8P 1Nz ~8P 11W ~59 1X9 ~59\nO GI I k 1qM R k 1qM a 8 1Ns ~7d 1Nt ~7d 1Ny ~7d 2 ~7d 1X8 ~8P 1Nz ~8P 11W ~59 1X9 ~59\nO GI I k 1qN R k 1qN a 8 1Ns ~7d 1Nt ~7d 1Ny ~7d 2 ~7d 1X8 ~8P 1Nz ~8P 11W ~59 1X9 ~59\nO GI I k 1qO R k 1qO a 8 1Ns ~7d 1Nt ~7d 1Ny ~7d 2 ~7d 1X8 ~8P 1Nz ~8P 11W ~59 1X9 ~59\nO GI I k 1qP R k 1qP a 8 1Ns ~7d 1Nt ~7d 1Ny ~7d 2 ~7d 1X8 ~8P 1Nz ~8P 11W ~59 1X9 ~59\nO GI I k 1qQ R k 1qQ a 8 1Ns ~7d 1Nt ~7d 1Ny ~7d 2 ~7d 1X8 ~8P 1Nz ~8P 11W ~59 1X9 ~59\nO GI I k 1qR R k 1qR a 8 1Ns ~7d 1Nt ~7d 1Ny ~7d 2 ~7d 1X8 ~8P 1Nz ~8P 11W ~59 1X9 ~59\nO GI I k 1qS R k 1qS a 8 1Ns ~7d 1Nt ~7d 1Ny ~7d 2 ~7d 1X8 ~8P 1Nz ~8P 11W ~59 1X9 ~59\nO GI I k 1qT R k 1qT a 8 1Ns ~7d 1Nt ~7d 1Ny ~7d 2 ~7d 1X8 ~8P 1Nz ~8P 11W ~59 1X9 ~59\nO GI I k 1qU R k 1qU a 8 1Ns ~7d 1Nt ~7d 1Ny ~7d 2 ~7d 1X8 ~8P 1Nz ~8P 11W ~59 1X9 ~59\nO GI I k 1qV R k 1qV a 8 1Ns ~7d 1Nt ~7d 1Ny ~7d 2 ~7d 1X8 ~8P 1Nz ~8P 11W ~59 1X9 ~59\nO GI I k 1qW R k 1qW a 8 1Ns ~7d 1Nt ~7d 1Ny ~7d 2 ~7d 1X8 ~8P 1Nz ~8P 11W ~59 1X9 ~59\nO GI I k 1qX R k 1qX a 8 1Ns ~7d 1Nt ~7d 1Ny ~7d 2 ~7d 1X8 ~8P 1Nz ~8P 11W ~59 1X9 ~59\nO GI I k 1qY R k 1qY a 8 1Ns ~7d 1Nt ~7d 1Ny ~7d 2 ~7d 1X8 ~8P 1Nz ~8P 11W ~59 1X9 ~59\nO GI I k 1qZ R k 1qZ a 8 1Ns ~7d 1Nt ~7d 1Ny ~7d 2 ~7d 1X8 ~8P 1Nz ~8P 11W ~59 1X9 ~59\nO GI I k 1qZ R k 1qZ a 8 1Ns ~7d 1Nt ~7d 1Ny ~7d 2 ~7d 1X8 ~8P 1Nz ~8P 11W ~59 1X9 ~59\nO GI I k 1r0 R k 1r0 a 8 1Ns ~7d 1Nt ~7d 1Ny ~7d 2 ~7d 1X8 ~8P 1Nz ~8P 11W ~59 1X9 ~59\nO GI I k 1r1 R k 1r1 a 8 1Ns ~7d 1Nt ~7d 1Ny ~7d 2 ~7d 1X8 ~8P 1Nz ~8P 11W ~59 1X9 ~59\nO GI I k 1r2 R k 1r2 a 8 1Ns ~7d 1Nt ~7d 1Ny ~7d 2 ~7d 1X8 ~8P 1Nz ~8P 11W ~59 1X9 ~59\nO GI I k 1r3 R k 1r3 a 8 1Ns ~7d 1Nt ~7d 1Ny ~7d 2 ~7d 1X8 ~8P 1Nz ~8P 11W ~59 1X9 ~59\nO GI I k 1r4 R k 1r4 a 8 1Ns ~7d 1Nt ~7d 1Ny ~7d 2 ~7d 1X8 ~8P 1Nz ~8P 11W ~59 1X9 ~59\nO GI I k 1r5 R k 1r5 a 8 1Ns ~7d 1Nt ~7d 1Ny ~7d 2 ~7d 1X8 ~8P 1Nz ~8P 11W ~59 1X9 ~59\nO GI I k 1r6 R k 1r6 a 8 1Ns ~7d 1Nt ~7d 1Ny ~7d 2 ~7d 1X8 ~8P 1Nz ~8P 11W ~59 1X9 ~59\nO GI I k 1r7 R k 1r7 a 8 1Ns ~7d 1Nt ~7d 1Ny ~7d 2 ~7d 1X8 ~8P 1Nz ~8P 11W ~59 1X9 ~59\nO GI I k 1r8 R k 1r8 a 8 1Ns ~7d 1Nt ~7d 1Ny ~7d 2 ~7d 1X8 ~8P 1Nz ~8P 11W ~59 1X9 ~59\nO GI I k 1r9 R k 1r9 a 8 1Ns ~7d 1Nt ~7d 1Ny ~7d 2 ~7d 1X8 ~8P 1Nz ~8P 11W ~59 1X9 ~59\nO GI I k 1ra R k 1ra a 8 1Ns ~7d 1Nt ~7d 1Ny ~7d 2 ~7d 1X8 ~8P 1Nz ~8P 11W ~59 1X9 ~59\nO GI I k 1rb R k 1rb a 8 1Ns ~7d 1Nt ~7d 1Ny ~7d 2 ~7d 1X8 ~8P 1Nz ~8P 11W ~59 1X9 ~59\nO GI I k 1rc R k 1rc a 8 1Ns ~7d 1Nt ~7d 1Ny ~7d 2 ~7d 1X8 ~8P 1Nz ~8P 11W ~59 1X9 ~59\nO 1qf a 4 1Xa ~5j 1Xb ~59 1N1 1qf 1Xc ~5j\nO 1qf a 4 1Xa ~5j 1Xb ~59 1N1 1qf 1Xc ~5j\nO 1qf a 4 1Xa ~5j 1Xb ~59 1N1 1qf 1Xc ~5j\nO 1qf a 4 1Xa ~5j 1Xb ~59 1N1 1qf 1Xc ~5j\nO 1qf a 4 1Xa ~5j 1Xb ~59 1N1 1qf 1Xc ~5j\nO 1qf a 4 1Xa ~5j 1Xb ~59 1N1 1qf 1Xc ~5j\nO 1qf a 4 1Xa ~5j 1Xb ~59 1N1 1qf 1Xc ~5j\nO 1qf a 4 1Xa ~5j 1Xb ~59 1N1 1qf 1Xc ~5j\nO 1qf a 4 1Xa ~5j 1Xb ~59 1N1 1qf 1Xc ~5j\nO 1qf a 4 1Xa ~5j 1Xb ~59 1N1 1qf 1Xc ~5j\nO 1qf a 4 1Xa ~5j 1Xb ~59 1N1 1qf 1Xc ~5j\nO 1qf a 4 1Xa ~5j 1Xb ~59 1N1 1qf 1Xc ~5j\nO 1qf a 4 1Xa ~5j 1Xb ~59 1N1 1qf 1Xc ~5j\nO 1qf a 4 1Xa ~5j 1Xb ~59 1N1 1qf 1Xc ~5j\nO 1qf a 4 1Xa ~5j 1Xb ~59 1N1 1qf 1Xc ~5j\nO 1qf a 4 1Xa ~5j 1Xb ~59 1N1 1qf 1Xc ~5j\nO 1qf a 4 1Xa ~5j 1Xb ~59 1N1 1qf 1Xc ~5j\nO 1qf a 4 1Xa ~5j 1Xb ~59 1N1 1qf 1Xc ~5j\nO 1qf a 4 1Xa ~5j 1Xb ~59 1N1 1qf 1Xc ~5j\nO 1qf a 4 1Xa ~5j 1Xb ~59 1N1 1qf 1Xc ~5j\nO 1qf a 4 1Xa ~5j 1Xb ~59 1N1 1qf 1Xc ~5j\nO 1qf a 4 1Xa ~5j 1Xb ~59 1N1 1qf 1Xc ~5j\nO 1qf a 4 1Xa ~5j 1Xb ~59 1N1 1qf 1Xc ~5j\nO 1qf a 4 1Xa ~5j 1Xb ~59 1N1 1qf 1Xc ~5j\nO 1qf a 4 1Xa ~5j 1Xb ~59 1N1 1qf 1Xc ~5j\nO 1qf a 4 1Xa ~5j 1Xb ~59 1N1 1qf 1Xc ~5j\nO 1qf a 4 1Xa ~5j 1Xb ~59 1N1 1qf 1Xc ~5j\nO 1qf a 4 1Xa ~5j 1Xb ~59 1N1 1qf 1Xc ~5j\nO 6l D ^ I k ~9J\nO 9I C ^ o 1 2 ~59\nO 9I C ^ o 1 2 ~59\nO 9I C ^ o 1 1NB ~bb\nO 6l D ^\nO 6l D ^\nO 9I C ^\nO 9I C ^\nO 6l D ^ Z k ~9J\nO 6l D ^ Z k ~7d\nO 9I C ^ o 1 1NB ~bb\nO 9I C ^\nO 9I C ^\nO 9I C ^\nO 6l D ^\nO 6l D ^\nO 9I C ^ o 2 2 ~59 1Nr ~9J\nO 9I C ^ o 1 2 ~59\nO 9I C ^ o 1 2 ~59\nO 9I C ^ o 1 2 ~59\nO 9I C ^ o 1 1NB ~bb\nO 6l D ^\nO 6l D ^\nO 1rF a 4 1Xa ~5j 1Xb ~59 1N1 1rF 1Xc ~5j\nO 9I C ^\nO 9I C ^\nO 9I C ^\nO 9I C ^\nT Gz P = 1nO 1 1qg 6 1rF 1qg 5j 1jm Fp 5l C ^ a k 1WF 5m 1WG ~8P 1WD GA 1WH ~8O 1WI ~9J 1WJ ~9J 1WK ~8O 1WL 5j 1WM 5n 1LQ ~59 2 ~59 1LM 6f gq 1rG gr 1rH gs 1rI gu 1rJ gt 1rK gw 1rL gv 1rM 1KX GE\nO GI I k 1rN R k 1rN a 8 1Ns ~7d 1Nt ~7d 1Ny ~7d 2 ~7d 1X8 ~8P 1Nz ~8P 11W ~59 1X9 ~59\nO GI I k 1rA R k 1rA a 8 1Ns ~7d 1Nt ~7d 1Ny ~7d 2 ~7d 1X8 ~8P 1Nz ~8P 11W ~59 1X9 ~59\nO GI I k 1rO R k 1rO a 8 1Ns ~7d 1Nt ~7d 1Ny ~7d 2 ~7d 1X8 ~8P 1Nz ~8P 11W ~59 1X9 ~59\nO GI I k 1rP R k 1rP a 8 1Ns ~7d 1Nt ~7d 1Ny ~7d 2 ~7d 1X8 ~8P 1Nz ~8P 11W ~59 1X9 ~59\nO GI I k 1rQ R k 1rQ a 8 1Ns ~7d 1Nt ~7d 1Ny ~7d 2 ~7d 1X8 ~8P 1Nz ~8P 11W ~59 1X9 ~59\nO GI I k 1rR R k 1rR a 8 1Ns ~7d 1Nt ~7d 1Ny ~7d 2 ~7d 1X8 ~8P 1Nz ~8P 11W ~59 1X9 ~59\nO GI I k 1rS R k 1rS a 8 1Ns ~7d 1Nt ~7d 1Ny ~7d 2 ~7d 1X8 ~8P 1Nz ~8P 11W ~59 1X9 ~59\nO 1rF a 4 1Xa ~5j 1Xb ~59 1N1 1rF 1Xc ~5j\nO 1rF a 4 1Xa ~5j 1Xb ~59 1N1 1rF 1Xc ~5j\nO 1rF a 4 1Xa ~5j 1Xb ~59 1N1 1rF 1Xc ~5j\nO 1rF a 4 1Xa ~5j 1Xb ~59 1N1 1rF 1Xc ~5j\nO 1rF a 4 1Xa ~5j 1Xb ~59 1N1 1rF 1Xc ~5j\nO 1rF a 4 1Xa ~5j 1Xb ~59 1N1 1rF 1Xc ~5j\nO 9I C ^ o 2 1NE ~bb 2 ~59\nO 9I C ^ o 1 2 ~59\nO 9I C ^ o 1 2 ~59\nO 9I C ^ o 1 2 ~59\nO 9I C ^ o 1 2 ~59\nO 9I C ^ o 1 2 ~59\nO 9I C ^ o 1 2 ~59\nO 9I C ^ o 1 2 ~59\nO 9I C ^ o 1 2 ~59\nO 9I C ^ o 1 2 ~59\nO 9I C ^ o 2 1NE ~bb 2 ~59\nO 9I C ^ o 1 2 ~59\nO 9I C ^ o 1 2 ~59\nO 9I C ^ o 1 2 ~59\nO 9I C ^ o 1 2 ~59\nO 9I C ^ o 1 2 ~59\nO 9I C ^ o 1 2 ~59\nO 9I C ^ o 1 2 ~59\nO 9I C ^ o 1 2 ~59\nO 9I C ^ o 1 2 ~59\nO 9I C ^ o 1 2 ~59\nO 9I C ^ o 1 2 ~59\nO 9I C ^ o 1 2 ~59\nO 9I C ^\nO 9I C ^\nO 6l D ^\nO 6l D ^\nO kA a 2 11W ~59 NL ~59\nO 8N a 9 11W ~59 1M1 1sk 1M2 ~59 1M3 ~7d 1M4 ~7d 1M5 ~8O 1M6 ~8P 1M7 ~59 1M8 ~8P\nO 7c C ^ S C o 1 1L4 ~7d\nO 7c C ^ S C o 1 1L4 ~7d\nO 7c C ^ S C o 1 1L4 ~7d\nO 7c C ^ S C o 1 1L4 ~7d\nO 7c C ^ S C o 1 1L4 ~7d\nO 7c C ^ S C o 1 1L4 ~7d\nO 7c C ^ S C o 1 1L4 ~7d\nO 7c C ^ S C o 1 1L4 ~7d\nO 7c C ^ S C o 1 1L4 ~7d\nO 7c C ^ S C o 1 1L4 ~7d\nO 9I C ^ o 2 1NE ~bb 2 ~59\nO 7c C ^ S C o 1 1L4 ~7d\nO 7c C ^ S C o 1 1L4 ~7d\nO 7c C ^ S C o 1 1L4 ~7d\nO 7c C ^ S C o 1 1L4 ~7d\nO 7c C ^ S C o 1 1L4 ~7d\nO 7c C ^ S C o 1 1L4 ~7d\nO 7c C ^ S C o 1 1L4 ~7d\nO 7c C ^ S C o 1 1L4 ~7d\nO 9I C ^ o 2 1NE ~bb 2 ~59\nO 7c C ^ S C o 1 1L4 ~7d\nO 7c C ^ S C o 1 1L4 ~7d\nO 7c C ^ S C o 1 1L4 ~7d\nO 7c C ^ S C o 1 1L4 ~7d\nO 7c C ^ S C o 1 1L4 ~7d\nO 7c C ^ S C o 1 1L4 ~7d\nO 7c C ^ S C o 1 1L4 ~7d\nO 7c C ^ S C o 1 1L4 ~7d\nT 5k P = qj 0 8r 4 1sO 8r 8s 5l C o X a a 1KX 1v4 1L6 1v5 1L2 1v6 1MS 1v7 EE 1v8 13I 1v9 Ik 1va 264 1vb 265 1vc 2 ~59\nT 5k P = eY 1 1sO 5 1sP 1sO 8r 8s 5l C o 4o a 3 1LQ ~59 1M0 1v3 2 ~7d o 1 2 ~7d\nT 5k P = eZ 1 1sO 5 1sQ 1sO 8r 8s 5l C o 4o a 3 1LQ ~59 1M0 1v2 2 ~7d o 1 2 ~7d\nT 5k P = qQ 0 1sO 5 1sR 1sO 8r 8s 5l C o X a 2 1L2 1v1 2 ~59\nT 5k P 266 f2 0 5l 2 1sS 5l C q eu - f2 a C 1KX 1uq 1KY 1ur 1KZ 1us 1L2 1ut 1Po 1uu 267 1uv 268 1uw eD 1ux 269 1uy 26a 1uz 1PL 1uA In 1uB 26b 1uC 26c 1uD 26d 1uE Wp 1uF 26e 1uG 26f 1uH 26g 1uI 26h 1uJ 1YA 1uK 26i 1uL 26j 1uM 26k 1uN 26l 1uO 26m 1uP 26n 1uQ 26o 1uR VV 1uS 26p 1uT 26q 1uU 26r 1uV 26s 1uW 26t 1uX q1 1uY 26u 1uZ f0 1v0 2 ~59\nT 5k P = f2 1 1sS 3 1sT 1sS 5l C ^ a q 1LQ ~59 2 ~59 1On ~8O 1L2 1u1 1P8 1u2 1P9 1u3 1KY 1u4 1MT 1u5 eE 1u6 26v 1u7 26w 1u8 26x 1u9 26y 1ua 26z 1ub 13s 1uc 26A 1ud 26B 1ue eD 1uf 1PL 1ug 26t 1uh q1 1ui 14d 1uj 14e 1uk 26C 1ul 26D 1um 1M0 1un\nO 1tf a 4 1Xa ~5j 1Xb ~59 1N1 1tf 1Xc ~5j\nO 1tf a 4 1Xa ~5j 1Xb ~59 1N1 1tf 1Xc ~5j\nO 1tf a 4 1Xa ~5j 1Xb ~59 1N1 1tf 1Xc ~5j\nO 1tf a 4 1Xa ~5j 1Xb ~59 1N1 1tf 1Xc ~5j\nO 1tf a 4 1Xa ~5j 1Xb ~59 1N1 1tf 1Xc ~5j\nO 1tf a 4 1Xa ~5j 1Xb ~59 1N1 1tf 1Xc ~5j\nO 1tf a 4 1Xa ~5j 1Xb ~59 1N1 1tf 1Xc ~5j\nO 1tf a 4 1Xa ~5j 1Xb ~59 1N1 1tf 1Xc ~5j\nO 1tf a 4 1Xa ~5j 1Xb ~59 1N1 1tf 1Xc ~5j\nO 1tf a 4 1Xa ~5j 1Xb ~59 1N1 1tf 1Xc ~5j\nO 1tf a 4 1Xa ~5j 1Xb ~59 1N1 1tf 1Xc ~5j\nO 1tf a 4 1Xa ~5j 1Xb ~59 1N1 1tf 1Xc ~5j\nO 1tf a 4 1Xa ~5j 1Xb ~59 1N1 1tf 1Xc ~5j\nO 1tf a 4 1Xa ~5j 1Xb ~59 1N1 1tf 1Xc ~5j\nO 1tg a 4 1Xa ~5j 1Xb ~59 1N1 1tg 1Xc ~5j\nO 1tg a 4 1Xa ~5j 1Xb ~59 1N1 1tg 1Xc ~5j\nO 1tg a 4 1Xa ~5j 1Xb ~59 1N1 1tg 1Xc ~5j\nO 1tg a 4 1Xa ~5j 1Xb ~59 1N1 1tg 1Xc ~5j\nO 1tg a 4 1Xa ~5j 1Xb ~59 1N1 1tg 1Xc ~5j\nO 1tg a 4 1Xa ~5j 1Xb ~59 1N1 1tg 1Xc ~5j\nO 1tg a 4 1Xa ~5j 1Xb ~59 1N1 1tg 1Xc ~5j\nT Gz P = 1nP 1 1jl 7 1tf 1jl 5j 1jm 1jn Fp 5l C ^ a D 1WF 5m 1WG ~8P 1WD 1jo 1WH ~8O 1WI ~9J 1WJ ~9J 1WK ~8O 1WL 5j 1WM 5n 249 1jp 24a ~5j 24b ~5j 24c ~5j 24d ~7d 113 1jq 119 1jr 10S 1js 1Mk 1jq 1Mj 1jr 1Mi 1js 10X 1jt 1LQ ~59 2 ~59 1LM 6f h0 1tN h1 1tO h2 1tP h6 1tQ h5 1tR h3 1tS h4 1tT h7 1tU hb 1tV ha 1tW h8 1tX hc 1tY hd 1tZ h9 1u0 1KX GE\nT Gz P = 1nQ 1 1jl 7 1tg 1jl 5j 1jm 1jn Fp 5l C ^ a w 1WF 5m 1WG ~8P 1WD 1jo 1WH ~8O 1WI ~9J 1WJ ~9J 1WK ~8O 1WL 5j 1WM 5n 249 1jp 24a ~5j 24b ~5j 24c ~5j 24d ~7d 113 1jq 119 1jr 10S 1js 1Mk 1jq 1Mj 1jr 1Mi 1js 10X 1jt 1LQ ~59 2 ~59 1LM 6f jA 1tG jB 1tH jC 1tI jG 1tJ jE 1tK jF 1tL jD 1tM 1KX GE\nO 9I C ^ o 1 2 ~59\nT 5k P = 1nU 1 8r 4 1ti 8r 8s 5l C ^ a 3 1LQ ~59 1M0 1tF 2 ~7d o 1 2 ~7d\nO 9I C ^ o 2 1NE ~bb 2 ~59\nO 9I C ^ o 2 1NE ~bb 2 ~59\nO 9I C ^ o 2 1NE ~bb 2 ~59\nO 9I C ^ o 1 1NE ~bb\nT hS P = 1o0 1 1ts 6 1tn 1ts 18t hV hW 5l C ^ a e 1LQ ~59 2 ~59 1L2 1tt 1PM 1tu 13o 1tv 1OX 1tw 1P5 1tx 1P2 1ty In 1tz 11W 1tA 1p1 1tB eD 1tC 1MQ ~i2 1P3 ~i3\nO 9I C ^ o 2 1NE ~bb 2 ~59\nO 9I C ^ o 3 1NE ~bb 2 ~59 1Nr ~9J\nO 9I C ^ o 1 2 ~59\nO 9I C ^ o 2 2 ~59 1Nr ~9J\nT hS P = Qz 1 18t 5 1ts 18t hV hW 5l C ^ a 4 1LQ ~59 2 ~59 1MQ ~i2 1P3 ~i3\nO 9I C ^\nO 9I C ^ o 1 2 ~59\nO 9I C ^ o 1 2 ~59\nO 9I C ^ o 1 2 ~59\nO 9I C ^ o 1 2 ~59\nO 9I C ^ o 2 1NB ~bb 2 ~59\nO 9I C ^ o 1 2 ~59\nO 9F o 2 2 ~7d 1Ns 1tE\nO 9F o 2 2 ~7d 1Ns 1tD\nO 9I C ^ o 1 2 ~59\nO 9I C q f2 1o0 1p1\nO 9I C q f2 1o0 11W\nO 6l D ^\nO GI I k 1t8 R k 1t8 a 8 1Ns ~7d 1Nt ~7d 1Ny ~7d 2 ~7d 1X8 ~8P 1Nz ~8P 11W ~59 1X9 ~59\nO GI I k 1t9 R k 1t9 a 8 1Ns ~7d 1Nt ~7d 1Ny ~7d 2 ~7d 1X8 ~8P 1Nz ~8P 11W ~59 1X9 ~59\nO GI I k 1ta R k 1ta a 8 1Ns ~7d 1Nt ~7d 1Ny ~7d 2 ~7d 1X8 ~8P 1Nz ~8P 11W ~59 1X9 ~59\nO GI I k 1te R k 1te a 8 1Ns ~7d 1Nt ~7d 1Ny ~7d 2 ~7d 1X8 ~8P 1Nz ~8P 11W ~59 1X9 ~59\nO GI I k 1tc R k 1tc a 8 1Ns ~7d 1Nt ~7d 1Ny ~7d 2 ~7d 1X8 ~8P 1Nz ~8P 11W ~59 1X9 ~59\nO GI I k 1td R k 1td a 8 1Ns ~7d 1Nt ~7d 1Ny ~7d 2 ~7d 1X8 ~8P 1Nz ~8P 11W ~59 1X9 ~59\nO GI I k 1tb R k 1tb a 8 1Ns ~7d 1Nt ~7d 1Ny ~7d 2 ~7d 1X8 ~8P 1Nz ~8P 11W ~59 1X9 ~59\nO GI I k 1sU R k 1sU a 8 1Ns ~7d 1Nt ~7d 1Ny ~7d 2 ~7d 1X8 ~8P 1Nz ~8P 11W ~59 1X9 ~59\nO GI I k 1sV R k 1sV a 8 1Ns ~7d 1Nt ~7d 1Ny ~7d 2 ~7d 1X8 ~8P 1Nz ~8P 11W ~59 1X9 ~59\nO GI I k 1sW R k 1sW a 8 1Ns ~7d 1Nt ~7d 1Ny ~7d 2 ~7d 1X8 ~8P 1Nz ~8P 11W ~59 1X9 ~59\nO GI I k 1t0 R k 1t0 a 8 1Ns ~7d 1Nt ~7d 1Ny ~7d 2 ~7d 1X8 ~8P 1Nz ~8P 11W ~59 1X9 ~59\nO GI I k 1sZ R k 1sZ a 8 1Ns ~7d 1Nt ~7d 1Ny ~7d 2 ~7d 1X8 ~8P 1Nz ~8P 11W ~59 1X9 ~59\nO GI I k 1sX R k 1sX a 8 1Ns ~7d 1Nt ~7d 1Ny ~7d 2 ~7d 1X8 ~8P 1Nz ~8P 11W ~59 1X9 ~59\nO GI I k 1sY R k 1sY a 8 1Ns ~7d 1Nt ~7d 1Ny ~7d 2 ~7d 1X8 ~8P 1Nz ~8P 11W ~59 1X9 ~59\nO GI I k 1t1 R k 1t1 a 8 1Ns ~7d 1Nt ~7d 1Ny ~7d 2 ~7d 1X8 ~8P 1Nz ~8P 11W ~59 1X9 ~59\nO GI I k 1t5 R k 1t5 a 8 1Ns ~7d 1Nt ~7d 1Ny ~7d 2 ~7d 1X8 ~8P 1Nz ~8P 11W ~59 1X9 ~59\nO GI I k 1t4 R k 1t4 a 8 1Ns ~7d 1Nt ~7d 1Ny ~7d 2 ~7d 1X8 ~8P 1Nz ~8P 11W ~59 1X9 ~59\nO GI I k 1t2 R k 1t2 a 8 1Ns ~7d 1Nt ~7d 1Ny ~7d 2 ~7d 1X8 ~8P 1Nz ~8P 11W ~59 1X9 ~59\nO GI I k 1t6 R k 1t6 a 8 1Ns ~7d 1Nt ~7d 1Ny ~7d 2 ~7d 1X8 ~8P 1Nz ~8P 11W ~59 1X9 ~59\nO GI I k 1t7 R k 1t7 a 8 1Ns ~7d 1Nt ~7d 1Ny ~7d 2 ~7d 1X8 ~8P 1Nz ~8P 11W ~59 1X9 ~59\nO GI I k 1t3 R k 1t3 a 8 1Ns ~7d 1Nt ~7d 1Ny ~7d 2 ~7d 1X8 ~8P 1Nz ~8P 11W ~59 1X9 ~59\nO 9I C ^ o 1 1NE ~bb\nO 9I C ^\nO 9I C ^\nO 9I C ^ o 1 2 ~59\nO 9I C ^\nO 9I C ^ o 1 2 ~59\nO 9I C ^ o 1 2 ~59\nO 9I C ^ o 3 1NE ~bb 2 ~59 1Nr ~9J\nO 9I C ^ o 1 1NE ~bb\nO 9I C ^ o 1 1NE ~bb\nO 9I C ^\nO 9I C ^ o 2 1NE ~bb 2 ~59\nO 9I C ^\nO 9I C ^ o 1 1NE ~bb\nO 9I C ^\nO 9I C ^ o 2 1NB ~bb 2 ~59\nO 9F o 1 1Ns 1up\nO 9F o 1 1Ns 1uo\nO 9I C ^ o 1 2 ~59\nO 9I C ^ o 1 2 ~59\nO 6v D ^\nO 6v D ^\nO 6l D ^\nO 9I C q f2 f2 q1 o 2 1NB ~bb 2 ~59\nO 9I C q f2 f2 26t o 2 1NB ~bb 2 ~59\nO 7c C b S 1sS o 1 1LQ ~7d\nO 6R C d D ^\nO 6R C d D ^\nO 6R C d D ^\nO 6R C d D ^ o 2 2 ~7d 1L4 ~7d\nO 6G C d D ^ o 1 1L4 ~7d\nO 6G C d D ^ o 1 1L4 ~7d\nO 6G C d D ^ o 1 1L4 ~7d\nO 6G C d D ^ o 1 1L4 ~7d\nO 6G C d D ^ o 1 1L4 ~7d\nO 6G C d D ^ o 1 1L4 ~7d\nO 6G C d D ^ o 1 1L4 ~7d\nO 6G C d D ^ o 1 1L4 ~7d\nO 6G C d D ^ o 1 1L4 ~7d\nO 6G C d D ^ o 1 1L4 ~7d\nO 6G C d D ^ o 1 1L4 ~7d\nO 6G C d D ^ o 1 1L4 ~7d\nO 6G C d D ^ o 1 1L4 ~7d\nO 6G C d D ^ o 1 1L4 ~7d\nO 6G C d D ^ o 1 1L4 ~7d\nO 6G C d D ^ o 1 1L4 ~7d\nO 6G C d D ^ o 1 1L4 ~7d\nO 6G C d D ^ o 1 1L4 ~7d\nO 6G C d D ^ o 1 1L4 ~7d\nO 6G C d D ^ o 1 1L4 ~7d\nO 6G C d D ^ o 1 1L4 ~7d\nO 6G C d D ^ o 1 1L4 ~7d\nO 6G C d D ^ o 1 1L4 ~7d\nO 6G C d D ^ o 1 1L4 ~7d\nO 6G C d D ^ o 1 1L4 ~7d\nO 6G C d D ^ o 1 1L4 ~7d\nO 6G C d D ^ o 1 1L4 ~7d\nO 6G C d D ^ o 1 1L4 ~7d\nO 6v D ^ o 1 2 ~59\nO 6v D ^ o 1 2 ~59\nO 6v D ^ o 1 2 ~59\nO 6l D ^\nO 6R C d D ^\nO 6l D ^\nO 6l D ^\nO 7c C b S 1sO o 1 1LQ ~7d\nO 6R C d D ^\nO 6R C d D ^\nO 6G C d D ^ o 2 2 ~7d 1L4 ~7d\nO 6v D ^ o 1 2 ~59\nO 6v D ^ o 1 2 ~59\nO 6v D ^ o 1 2 ~59\nO 6v D ^ o 1 2 ~59\nO 6l D ^ o 1 2 ~7d\nO 8N a 9 11W ~59 1M1 d6 1M2 ~59 1M3 1vC 1M4 ~7d 1M5 ~8O 1M6 ~8P 1M7 ~7d 1M8 ~8P o 1 1M9 ~7d\nO 9I C ^\nO 9I C ^\nO 9I C ^ o 1 2 ~59\nO 9I C ^ o 1 2 ~59\nO 9I C ^ o 1 2 ~59\nO 9I C ^ o 1 2 ~59\nO 9I C ^ o 2 1NE ~bb 2 ~59\nO 9I C ^ o 1 2 ~59\nO 9I C ^\nO 9I C ^\nO 9I C ^ o 1 2 ~59\nO 9I C ^ o 1 2 ~59\nO 9I C ^ o 1 2 ~59\nO 9I C ^ o 2 1NE ~bb 2 ~59\nO 9I C ^ o 2 1NE ~bb 2 ~59\nO 9I C ^ o 1 2 ~59\nO 9I C ^ o 1 2 ~59\nO 9I C ^\nO 9I C ^ o 1 2 ~59\nO 9I C ^\nO 9I C ^ o 1 2 ~59\nO 9I C ^ o 1 2 ~59\nO 9I C ^ o 1 2 ~59\nO 9I C ^\nO fx a 2 Ik ~59 1Oj ~59\nO kA a 2 11W ~59 NL ~59\nO 8N a 9 11W ~59 1M1 1vD 1M2 ~59 1M3 ~7d 1M4 ~7d 1M5 ~8O 1M6 ~8P 1M7 ~59 1M8 ~8P\nO 7c C ^ S A\nO 7c C ^ S A\nO 7c C ^ S A\nO 7c C ^ S A\nO 9I C ^ o 1 2 ~59\nO 7c C ^ S A\nO 7c C ^ S A\nO 9I C ^ o 1 2 ~59\nO 7c C ^ S A o 1 1L4 ~7d\nO 7c C ^ S A\nO 7c C ^ S A\nO 7c C ^ S A\nO 9I C ^ o 1 2 ~59\nO 9I C ^ o 1 2 ~59\nO 9I C ^ o 1 2 ~59\nO 7c C ^ S A\nO 7c C ^ S A\nO 9I C ^ o 1 2 ~59\nO 1wD a 4 1Xa ~5j 1Xb ~59 1N1 1wD 1Xc ~5j\nO 1wD a 4 1Xa ~5j 1Xb ~59 1N1 1wD 1Xc ~5j\nO 1wD a 4 1Xa ~5j 1Xb ~59 1N1 1wD 1Xc ~5j\nO 1wB a 4 1Xa ~5j 1Xb ~59 1N1 1wB 1Xc ~5j\nO 1wB a 4 1Xa ~5j 1Xb ~59 1N1 1wB 1Xc ~5j\nO 1wB a 4 1Xa ~5j 1Xb ~59 1N1 1wB 1Xc ~5j\nO 1wB a 4 1Xa ~5j 1Xb ~59 1N1 1wB 1Xc ~5j\nO 1wB a 4 1Xa ~5j 1Xb ~59 1N1 1wB 1Xc ~5j\nO 1wB a 4 1Xa ~5j 1Xb ~59 1N1 1wB 1Xc ~5j\nO 1wB a 4 1Xa ~5j 1Xb ~59 1N1 1wB 1Xc ~5j\nO 1wB a 4 1Xa ~5j 1Xb ~59 1N1 1wB 1Xc ~5j\nO 1wB a 4 1Xa ~5j 1Xb ~59 1N1 1wB 1Xc ~5j\nO 1wB a 4 1Xa ~5j 1Xb ~59 1N1 1wB 1Xc ~5j\nO 1wB a 4 1Xa ~5j 1Xb ~59 1N1 1wB 1Xc ~5j\nO 1wB a 4 1Xa ~5j 1Xb ~59 1N1 1wB 1Xc ~5j\nO 1wB a 4 1Xa ~5j 1Xb ~59 1N1 1wB 1Xc ~5j\nO 1wB a 4 1Xa ~5j 1Xb ~59 1N1 1wB 1Xc ~5j\nO 1wB a 4 1Xa ~5j 1Xb ~59 1N1 1wB 1Xc ~5j\nO 1wB a 4 1Xa ~5j 1Xb ~59 1N1 1wB 1Xc ~5j\nO 1wB a 4 1Xa ~5j 1Xb ~59 1N1 1wB 1Xc ~5j\nO 1wB a 4 1Xa ~5j 1Xb ~59 1N1 1wB 1Xc ~5j\nO 1wB a 4 1Xa ~5j 1Xb ~59 1N1 1wB 1Xc ~5j\nO 1wB a 4 1Xa ~5j 1Xb ~59 1N1 1wB 1Xc ~5j\nO 1wB a 4 1Xa ~5j 1Xb ~59 1N1 1wB 1Xc ~5j\nO 1wB a 4 1Xa ~5j 1Xb ~59 1N1 1wB 1Xc ~5j\nO 1wB a 4 1Xa ~5j 1Xb ~59 1N1 1wB 1Xc ~5j\nO 1wB a 4 1Xa ~5j 1Xb ~59 1N1 1wB 1Xc ~5j\nO 1wB a 4 1Xa ~5j 1Xb ~59 1N1 1wB 1Xc ~5j\nO 1wB a 4 1Xa ~5j 1Xb ~59 1N1 1wB 1Xc ~5j\nO 1wB a 4 1Xa ~5j 1Xb ~59 1N1 1wB 1Xc ~5j\nO 1wB a 4 1Xa ~5j 1Xb ~59 1N1 1wB 1Xc ~5j\nO 1wB a 4 1Xa ~5j 1Xb ~59 1N1 1wB 1Xc ~5j\nO 1wB a 4 1Xa ~5j 1Xb ~59 1N1 1wB 1Xc ~5j\nO 1wB a 4 1Xa ~5j 1Xb ~59 1N1 1wB 1Xc ~5j\nO 1wB a 4 1Xa ~5j 1Xb ~59 1N1 1wB 1Xc ~5j\nO 1wB a 4 1Xa ~5j 1Xb ~59 1N1 1wB 1Xc ~5j\nO 1wC a 4 1Xa ~5j 1Xb ~59 1N1 1wC 1Xc ~5j\nO 1wC a 4 1Xa ~5j 1Xb ~59 1N1 1wC 1Xc ~5j\nT 5k P = 26E 1 1sO 5 1wz 1sO 8r 8s 5l C q dq - 26E a 3 1LQ ~59 1M0 1xv 2 ~7d o 1 2 ~7d\nT 5k P 26F eo 1 bb 3 1wA bb 5l C o 4m a g 1KX 1xl 1KY 1xm 1MS 1xn 26G 1xo 26H 1xp 26I 1xq 26J 1xr 26K 1xs 26L 1xt 26M 1xu 2 ~59 1LQ ~59 212 ~5j 213 ~5j 214 ~5j 1Xp ~bb\nT Gz P = 1ng 1 1qg 6 1wB 1qg 5j 1jm Fp 5l C ^ a N 1WF 5m 1WG ~8P 1WD GA 1WH ~8O 1WI ~9J 1WJ ~9J 1WK ~8O 1WL 5j 1WM 5n 1LQ ~59 2 ~59 1LM 6f dI 1wL dJ 1wM dK 1wN dL 1wO dM 1wP dO 1wQ dN 1wR dR 1wS dP 1wT dQ 1wU dX 1wV dS 1wW dY 1wX dU 1wY dV 1wZ dW 1x0 eh 1x1 e0 1x2 dZ 1x3 e8 1x4 e6 1x5 e7 1x6 e9 1x7 ea 1x8 e3 1x9 ed 1xa ee 1xb eb 1xc ec 1xd e4 1xe e2 1xf e5 1xg e1 1xh dT 1xi ef 1xj eg 1xk 1KX GE\nT Gz P = 1nh 1 1qg 6 1wC 1qg 5j 1jm Fp 5l C ^ a f 1WF 5m 1WG ~8P 1WD GA 1WH ~8O 1WI ~9J 1WJ ~9J 1WK ~8O 1WL 5j 1WM 5n 1LQ ~59 2 ~59 1LM 6f el 1wJ em 1wK 1KX GE\nT Gz P = 1ni 1 1qg 6 1wD 1qg 5j 1jm Fp 5l C ^ a g 1WF 5m 1WG ~8P 1WD GA 1WH ~8O 1WI ~9J 1WJ ~9J 1WK ~8O 1WL 5j 1WM 5n 1LQ ~59 2 ~59 1LM 6f dF 1wG dG 1wH dH 1wI 1KX GE\nO 9I C ^ o 1 2 ~59\nO 9I C ^ o 1 2 ~59\nO GI I k 1vX R k 1vX a 8 1Ns ~7d 1Nt ~7d 1Ny ~7d 2 ~7d 1X8 ~8P 1Nz ~8P 11W ~59 1X9 ~59\nO GI I k 1vY R k 1vY a 8 1Ns ~7d 1Nt ~7d 1Ny ~7d 2 ~7d 1X8 ~8P 1Nz ~8P 11W ~59 1X9 ~59\nO GI I k 1vZ R k 1vZ a 8 1Ns ~7d 1Nt ~7d 1Ny ~7d 2 ~7d 1X8 ~8P 1Nz ~8P 11W ~59 1X9 ~59\nO GI I k 1wx R k 1wx a 8 1Ns ~7d 1Nt ~7d 1Ny ~7d 2 ~7d 1X8 ~8P 1Nz ~8P 11W ~59 1X9 ~59\nO GI I k 1wy R k 1wy a 8 1Ns ~7d 1Nt ~7d 1Ny ~7d 2 ~7d 1X8 ~8P 1Nz ~8P 11W ~59 1X9 ~59\nO GI I k 1w0 R k 1w0 a 8 1Ns ~7d 1Nt ~7d 1Ny ~7d 2 ~7d 1X8 ~8P 1Nz ~8P 11W ~59 1X9 ~59\nO GI I k 1w1 R k 1w1 a 8 1Ns ~7d 1Nt ~7d 1Ny ~7d 2 ~7d 1X8 ~8P 1Nz ~8P 11W ~59 1X9 ~59\nO GI I k 1w2 R k 1w2 a 8 1Ns ~7d 1Nt ~7d 1Ny ~7d 2 ~7d 1X8 ~8P 1Nz ~8P 11W ~59 1X9 ~59\nO GI I k 1w3 R k 1w3 a 8 1Ns ~7d 1Nt ~7d 1Ny ~7d 2 ~7d 1X8 ~8P 1Nz ~8P 11W ~59 1X9 ~59\nO GI I k 1w4 R k 1w4 a 8 1Ns ~7d 1Nt ~7d 1Ny ~7d 2 ~7d 1X8 ~8P 1Nz ~8P 11W ~59 1X9 ~59\nO GI I k 1w5 R k 1w5 a 8 1Ns ~7d 1Nt ~7d 1Ny ~7d 2 ~7d 1X8 ~8P 1Nz ~8P 11W ~59 1X9 ~59\nO GI I k 1w5 R k 1w5 a 8 1Ns ~7d 1Nt ~7d 1Ny ~7d 2 ~7d 1X8 ~8P 1Nz ~8P 11W ~59 1X9 ~59\nO GI I k 1w8 R k 1w8 a 8 1Ns ~7d 1Nt ~7d 1Ny ~7d 2 ~7d 1X8 ~8P 1Nz ~8P 11W ~59 1X9 ~59\nO GI I k 1w6 R k 1w6 a 8 1Ns ~7d 1Nt ~7d 1Ny ~7d 2 ~7d 1X8 ~8P 1Nz ~8P 11W ~59 1X9 ~59\nO GI I k 1w7 R k 1w7 a 8 1Ns ~7d 1Nt ~7d 1Ny ~7d 2 ~7d 1X8 ~8P 1Nz ~8P 11W ~59 1X9 ~59\nO GI I k 1we R k 1we a 8 1Ns ~7d 1Nt ~7d 1Ny ~7d 2 ~7d 1X8 ~8P 1Nz ~8P 11W ~59 1X9 ~59\nO GI I k 1w9 R k 1w9 a 8 1Ns ~7d 1Nt ~7d 1Ny ~7d 2 ~7d 1X8 ~8P 1Nz ~8P 11W ~59 1X9 ~59\nO GI I k 1wf R k 1wf a 8 1Ns ~7d 1Nt ~7d 1Ny ~7d 2 ~7d 1X8 ~8P 1Nz ~8P 11W ~59 1X9 ~59\nO GI I k 1wb R k 1wb a 8 1Ns ~7d 1Nt ~7d 1Ny ~7d 2 ~7d 1X8 ~8P 1Nz ~8P 11W ~59 1X9 ~59\nO GI I k 1wc R k 1wc a 8 1Ns ~7d 1Nt ~7d 1Ny ~7d 2 ~7d 1X8 ~8P 1Nz ~8P 11W ~59 1X9 ~59\nO GI I k 1wd R k 1wd a 8 1Ns ~7d 1Nt ~7d 1Ny ~7d 2 ~7d 1X8 ~8P 1Nz ~8P 11W ~59 1X9 ~59\nO GI I k 1ww R k 1ww a 8 1Ns ~7d 1Nt ~7d 1Ny ~7d 2 ~7d 1X8 ~8P 1Nz ~8P 11W ~59 1X9 ~59\nO GI I k 1wg R k 1wg a 8 1Ns ~7d 1Nt ~7d 1Ny ~7d 2 ~7d 1X8 ~8P 1Nz ~8P 11W ~59 1X9 ~59\nO GI I k 1wg R k 1wg a 8 1Ns ~7d 1Nt ~7d 1Ny ~7d 2 ~7d 1X8 ~8P 1Nz ~8P 11W ~59 1X9 ~59\nO GI I k 1wn R k 1wn a 8 1Ns ~7d 1Nt ~7d 1Ny ~7d 2 ~7d 1X8 ~8P 1Nz ~8P 11W ~59 1X9 ~59\nO GI I k 1wl R k 1wl a 8 1Ns ~7d 1Nt ~7d 1Ny ~7d 2 ~7d 1X8 ~8P 1Nz ~8P 11W ~59 1X9 ~59\nO GI I k 1wm R k 1wm a 8 1Ns ~7d 1Nt ~7d 1Ny ~7d 2 ~7d 1X8 ~8P 1Nz ~8P 11W ~59 1X9 ~59\nO GI I k 1wo R k 1wo a 8 1Ns ~7d 1Nt ~7d 1Ny ~7d 2 ~7d 1X8 ~8P 1Nz ~8P 11W ~59 1X9 ~59\nO GI I k 1wp R k 1wp a 8 1Ns ~7d 1Nt ~7d 1Ny ~7d 2 ~7d 1X8 ~8P 1Nz ~8P 11W ~59 1X9 ~59\nO GI I k 1wj R k 1wj a 8 1Ns ~7d 1Nt ~7d 1Ny ~7d 2 ~7d 1X8 ~8P 1Nz ~8P 11W ~59 1X9 ~59\nO GI I k 1ws R k 1ws a 8 1Ns ~7d 1Nt ~7d 1Ny ~7d 2 ~7d 1X8 ~8P 1Nz ~8P 11W ~59 1X9 ~59\nO GI I k 1wt R k 1wt a 8 1Ns ~7d 1Nt ~7d 1Ny ~7d 2 ~7d 1X8 ~8P 1Nz ~8P 11W ~59 1X9 ~59\nO GI I k 1wq R k 1wq a 8 1Ns ~7d 1Nt ~7d 1Ny ~7d 2 ~7d 1X8 ~8P 1Nz ~8P 11W ~59 1X9 ~59\nO GI I k 1wr R k 1wr a 8 1Ns ~7d 1Nt ~7d 1Ny ~7d 2 ~7d 1X8 ~8P 1Nz ~8P 11W ~59 1X9 ~59\nO GI I k 1wk R k 1wk a 8 1Ns ~7d 1Nt ~7d 1Ny ~7d 2 ~7d 1X8 ~8P 1Nz ~8P 11W ~59 1X9 ~59\nO GI I k 1wi R k 1wi a 8 1Ns ~7d 1Nt ~7d 1Ny ~7d 2 ~7d 1X8 ~8P 1Nz ~8P 11W ~59 1X9 ~59\nO GI I k 1wi R k 1wi a 8 1Ns ~7d 1Nt ~7d 1Ny ~7d 2 ~7d 1X8 ~8P 1Nz ~8P 11W ~59 1X9 ~59\nO GI I k 1wh R k 1wh a 8 1Ns ~7d 1Nt ~7d 1Ny ~7d 2 ~7d 1X8 ~8P 1Nz ~8P 11W ~59 1X9 ~59\nO GI I k 1wa R k 1wa a 8 1Ns ~7d 1Nt ~7d 1Ny ~7d 2 ~7d 1X8 ~8P 1Nz ~8P 11W ~59 1X9 ~59\nO GI I k 1wu R k 1wu a 8 1Ns ~7d 1Nt ~7d 1Ny ~7d 2 ~7d 1X8 ~8P 1Nz ~8P 11W ~59 1X9 ~59\nO GI I k 1wv R k 1wv a 8 1Ns ~7d 1Nt ~7d 1Ny ~7d 2 ~7d 1X8 ~8P 1Nz ~8P 11W ~59 1X9 ~59\nO 7c C b S 1wA o 1 1LQ ~7d\nO 6R C d D ^\nO 6G C d D ^ o 2 2 ~7d 1L4 ~7d\nO 6v D ^ o 1 2 ~59\nO 6v D ^ o 1 2 ~59\nO 6v D ^ o 1 2 ~59\nO 6v D ^ o 1 2 ~59\nO 6v D ^ o 1 2 ~59\nO 6v D ^ o 1 2 ~59\nO 6v D ^ o 1 2 ~59\nO 6l D ^\nO kA a 2 11W ~59 NL ~59\nO 8N a 9 11W ~59 1M1 1xw 1M2 ~59 1M3 ~7d 1M4 ~7d 1M5 ~8O 1M6 ~8P 1M7 ~59 1M8 ~8P\nT 5k P = 5b 1 1sO 5 1xy 1sO 8r 8s 5l C ^ a 3 1LQ ~59 1M0 1yH 2 ~7d o 1 2 ~7d\nT 5k P = 1mo 1 1xy 6 1xz 1xy 1sO 8r 8s 5l C ^ a 2 1LQ ~59 2 ~59\nT 5k P = 1mp 1 1sO 5 1xA 1sO 8r 8s 5l C ^ a 3 1LQ ~59 2 ~59 1M0 1yG\nT 5k P = 1mq 1 1sO 5 1xB 1sO 8r 8s 5l C ^ a 3 1LQ ~59 2 ~59 1M0 1yF\nT 5k P = 1mr 1 1sO 5 1xC 1sO 8r 8s 5l C ^ a 3 1LQ ~59 2 ~59 1M0 1yE\nT 5k P = 1ms 1 8r 4 1xD 8r 8s 5l C ^ a 3 1LQ ~59 2 ~59 1M0 1yD\nT 5k P = 1mt 1 8r 4 1xE 8r 8s 5l C ^ a 3 1LQ ~59 2 ~59 1M0 1yC\nO 9I C ^ o 1 2 ~59\nO 9I C ^ o 1 2 ~59\nO 9I C ^ o 2 1NE ~bb 2 ~59\nO 9I C ^ o 2 1NE ~bb 2 ~59\nO 9I C ^\nO 9I C ^\nO 9I C ^\nO 9I C ^ o 2 2 ~59 1Nr ~9J\nO 9I C ^ o 2 2 ~59 1Nr ~9J\nO 9I C ^ o 2 2 ~59 1Nr ~9J\nO 9I C ^ o 2 2 ~59 1Nr ~9J\nO 9I C ^ o 2 2 ~59 1Nr ~9J\nO 9I C ^ o 2 2 ~59 1Nr ~9J\nO 9I C ^ o 1 2 ~59\nO 9I C ^ o 1 1NE ~bb\nO 9I C ^ o 2 1NE ~bb 2 ~59\nO 9I C ^\nO 9I C ^\nO 9I C ^\nO 9I C ^\nO 9I C ^ a 1 26N ~8P o 3 1NE ~bb 2 ~59 1Nr ~9J\nO 9I C ^ o 1 2 ~59\nO 9I C ^ o 2 1NE ~bb 2 ~59\nO 9I C ^\nO 9I C ^\nO 9I C ^ o 1 2 ~59\nO 9I C ^ o 1 2 ~59\nO 9I C ^ o 2 1NE ~bb 2 ~59\nO 9I C ^ o 2 1NE ~bb 2 ~59\nO 9I C ^ o 1 2 ~59\nO 9I C ^ o 2 1NE ~bb 2 ~59\nO 9I C ^\nO 9I C ^ o 2 1NE ~bb 2 ~59\nO 9I C ^ o 1 2 ~59\nO 9I C ^ o 1 2 ~59\nO 9I C ^ o 2 1NE ~bb 2 ~59\nO 9I C ^ o 1 2 ~59\nO 9I C ^ o 1 2 ~59\nO 9I C ^ o 1 2 ~59\nO 9I C ^ o 2 2 ~59 1Nr ~9J\nO 9I C ^\nO 9I C ^ o 3 1NE ~bb 2 ~59 1Nr ~9J\nT 5k P = 26O 1 bb 3 1yl bb 5l C q 1me - 26O a f 2 ~59 1On ~bb 1Xk ~bb 1Xl ~9J 1KX 1yr 1Xm 1ys 1Xn 1yt 1KY 1yu 1Xo 1yv 1LP 1yw 1Xp ~bb 1YE 1yx 26P 1yy 26Q 1yz 1LQ ~59\nO 9I C ^ o 1 2 ~59\nO 9I C ^ o 2 1NE ~bb 2 ~59\nO 9I C ^ o 2 1NE ~bb 2 ~59\nO 9I C ^\nO 9I C ^ o 2 1NE ~bb 2 ~59\nO bz C t 1NP F 1yB\nO b0 F 1yA a 5 1LQ ~59 1 ~59 1MO ~59 2 ~7d RL ~9J\nO 9I C q tH 26O 1Xn o 2 1NB ~bb 2 ~59\nO 9I C q tH 26O 1KY o 2 1NB ~bb 2 ~59\nO 9I C q tH 26O 1Xo o 2 1NB ~bb 2 ~59\nO 9I C q tH 26O 1LP o 2 1NB ~bb 2 ~59\nO Jp\nO Jp\nO Jp\nO 9I C q tH 26O 1Xm o 2 1NB ~bb 2 ~59\nO 9I C q 26R 26O 1KX o 1 2 ~59\nO 6l D ^\nO 6l D ^\nO 6l D ^\nO 6l D ^\nO 6l D ^\nO 6l D ^\nO kA a 2 11W ~59 NL ~59\nO 8N a 9 11W ~59 1M1 1yI 1M2 ~59 1M3 ~7d 1M4 ~7d 1M5 ~8O 1M6 ~8P 1M7 ~59 1M8 ~8P\nT 5k P 26S 9V 0 160 4 1yK 160 hW 5l C q 7D - 9V a k 1KX 1z5 1PP 1z6 1L2 1z7 eD 1z8 26T 1z9 13k 1za 1OV 1zb 1OP 1zc 13D 1zd 1OQ 1ze 13o 1zf 1P2 1zg 1OX 1zh 1P5 1zi 1MT 1zj 1N8 1zk 1PW 1zl 1Yi 1zm 1Yh 1zn 2 ~59 o 1 1L4 ~59\nT 5k P = 1mb 1 5l 2 1yL 5l C ^ a f 1LQ ~59 2 ~59 1L2 1yR 26U 1yS 26V 1yT 26W 1yU 26X 1yV 26Y 1yW 26Z 1yX 270 1yY 271 1yZ 1L7 1z0 1PP 1z1 1L3 1z2 1M0 1z3\nO 9I C ^ o 2 1NE ~bb 2 ~59\nO 9I C ^ o 1 2 ~59\nO oA C q pA 1dt 1dm S ~oB o 1 1LQ ~7d\nO 9I C ^ o 1 2 ~59\nO 9I C ^\nO 9I C ^ o 1 1NE ~bb\nO 9F o 2 2 ~7d 1Ns 1z4\nO 9I C ^ o 1 2 ~59\nO 9I C ^ o 2 1NE ~bb 2 ~59\nO 9I C ^ o 1 2 ~59\nO 9I C ^ o 1 2 ~59\nO 9I C ^\nO 9I C ^ o 1 2 ~59\nO 9I C ^ o 2 1NE ~bb 2 ~59\nO 9I C ^\nO 9I C ^\nO 6l D ^\nO 6l D ^\nO 9I C q 1mb 1mb 26U\nO 7c C b S 1yK o 1 1LQ ~7d\nO 6R C d D ^\nO 6R C d D ^\nO 6G C d D ^\nO 6G C d D ^\nO 6G C d D ^\nO 6G C d D ^\nO 6G C d D ^\nO 6G C d D ^\nO 6G C d D ^\nO 6G C d D ^\nO 6G C d D ^\nO 6G C d D ^\nO 6G C d D ^\nO 6G C d D ^ o 2 2 ~7d 1L4 ~7d\nO 6G C d D ^ o 2 2 ~7d 1L4 ~7d\nO 6l D ^ o 1 2 ~7d\nO 6l D ^ o 1 2 ~7d\nO 6l D ^ o 1 2 ~7d\nO kA a 2 11W ~59 NL ~59\nO 8N a 9 11W ~59 1M1 1zo 1M2 ~59 1M3 ~7d 1M4 ~7d 1M5 ~8O 1M6 ~8P 1M7 ~59 1M8 ~8P\nO 9I C ^ o 1 2 ~59\nT 5k P = 1m1 1 bb 3 1zr bb 5l C ^ a g 2 ~59 1On ~bb 1Xk ~bb 1Xl ~9J 1KX 1zX 1Xm 1zY 1Xn 1zZ 1KY 1A0 1Xo 1A1 1LP 1A2 1Xp ~bb 272 1A3 273 1A4 274 1A5 1Rq 1A6 1LQ ~59\nT hS P = 1m2 1 zM 7 1zs zM zN zO zP zQ 5l C ^ a a 1LQ ~59 2 ~59 1L2 1zR 1L9 1zS 11d 1zT 1L7 1zU 1L3 1zV 1M0 1zW 1MQ ~i2 1P3 ~i3\nT hS P = 1m5 1 1i6 4 1zt 1i6 1i7 5l C ^ a 9 1LQ ~59 2 ~59 1L2 1zM 2Y 1zN 2Z 1zO 275 1zP 1lt 1zQ 1MQ ~i2 1P3 ~i3\nT hS P = 1m8 1 1i5 5 1zu 1i5 1i6 1i7 5l C ^ a a 1LQ ~59 2 ~59 23s 1zw 23t ~5j 23u ~5j In 1zx 1lt 1zy eD 1zz 1MQ ~i2 1P3 ~i3\nO 9I C ^ o 1 2 ~59\nT 5k P 276 1lI 1 5l 2 1zw 5l C ^ a e 1KX 1zA 1KZ 1zB 1nV 1zC eD 1zD In 1zE 23P 1zF 2Y 1zG 2Z 1zH 1lu 1zI 1P8 1zJ 1P9 1zK 1PW 1zL 2 ~59 1LQ ~59\nO 9I C ^\nO 9I C ^ o 1 1NE ~bb\nO 9I C ^ o 1 1NB ~bb\nO 7c C b S 1zw o 1 1LQ ~7d\nO 6R C d D ^\nO 72 C d D ^ Y 7c o 1 1L4 ~59\nO 6G C d D ^\nO 6G C d D ^\nO 6G C d D ^\nO 6G C d D ^\nO 6G C d D ^\nO 6G C d D ^\nO 6G C d D ^ o 1 2 ~7d\nO 6G C d D ^ o 1 2 ~7d\nO 6l D ^\nO 9I C ^ o 1 1NB ~bb\nO 9I C ^ o 2 1NB ~bb 1NE ~bb\nO 9I C ^ o 1 1NB ~bb\nO 7c C ^ S 4i\nO 9I C ^ o 1 1NE ~bb\nO 9I C ^\nO 9I C ^\nO 9I C ^\nO 9I C ^\nO 6l D ^\nO 6l D ^\nO bz C t 1NP F 1A8\nO b0 F 1A7 a 5 1LQ ~59 1 ~59 1MO ~59 2 ~7d RL ~9J\nO 9I C q tH 1m1 1Xn o 2 1NB ~bb 2 ~59\nO 9I C q tH 1m1 1KY o 2 1NB ~bb 2 ~59\nO 9I C q tH 1m1 1Xo o 2 1NB ~bb 2 ~59\nO 9I C q tH 1m1 1LP o 2 1NB ~bb 2 ~59\nO Jp\nO Jp\nO Jp\nO Jp\nO 9I C q tH 1m1 1Xm o 2 1NB ~bb 2 ~59\nO 9I C q 277 1m1 1KX o 1 2 ~59\nO 8N a 9 11W ~59 1M1 5a 1M2 ~59 1M3 ~7d 1M4 ~7d 1M5 ~8O 1M6 ~8P 1M7 ~7d 1M8 ~8P o 1 1M9 ~7d\nO kA a 2 11W ~59 NL ~59\nO 8N a 9 11W ~59 1M1 1Aa 1M2 ~59 1M3 ~7d 1M4 ~7d 1M5 ~8O 1M6 ~8P 1M7 ~59 1M8 ~8P\nO 7c C ^ S k\nT 5k P = 1cA 1 1cw 4 1Ad 1cw 1e3 5l C ^ a a 1LQ ~59 2 ~59 Di 1Am 1cW 1Al 1cX 1An 1cC 1Ao 278 1Ap 1cU 1Ap 1cV 1Ap 22v 1ec\nO 1Ad a 1 279 ~7d\nO WO C q Di 1cA 1cW F 1Al S 1Ae\nO WO C q Di dg 1cG F 1eh S 1Ae\nO 9I C ^ o 1 2 ~59\nO 9I C ^ o 2 1NE ~bb 2 ~59\nO 9I C ^ o 2 1NE ~bb 2 ~59\nO 9I C ^ o 2 1NE ~bb 2 ~59\nO 9I C ^ o 1 2 ~59\nO 9I C ^ o 1 2 ~59\nO 9I C ^ o 1 2 ~59\nO 9I C ^ o 1 2 ~59\nO 9I C ^ o 1 2 ~59\nO kA a 2 11W ~59 NL ~59\nO 8N a 9 11W ~59 1M1 1Aq 1M2 ~59 1M3 ~7d 1M4 ~7d 1M5 ~8O 1M6 ~8P 1M7 ~59 1M8 ~8P\nT 5k P = XP 1 bb 3 1As bb 5l C ^ a i 2 ~59 1On ~bb 1Xk ~bb 1Xl ~9J 1KX 1AE 1Xm 1AF 1Xn 1AG 1KY 1AH 1Xo 1AI 1LP 1AJ 1Xp ~bb 5T 1AK 27a 1AL 27b 1AM 27c 1AN 27d 1AO 1Wt 1AP 1LQ ~59\nT 5k P = 1lk 1 5l 2 1At 5l C ^ a b 1LQ ~59 1L2 1Au 27e 1Av 27f 1Aw 21U 1Ax 27g 1Ay 1pJ 1Az uU 1AA 1L3 1AB 1M0 1AC 2 ~7d o 1 2 ~7d\nO 9I C ^ o 2 1NE ~bb 2 ~59\nO 9I C ^ o 2 1NE ~bb 2 ~59\nO 9I C ^ o 2 1NE ~bb 2 ~59\nO 9I C ^ o 1 2 ~59\nO 9I C ^ o 1 2 ~59\nO 9I C ^ o 2 1NE ~bb 2 ~59\nO 9F o 1 1Ns 1AD\nO 6l D ^\nO 6l D ^\nO 9I C q 1li 1lk uU o 1 2 ~59\nO bz C t 1NP F 1AR\nO b0 F 1AQ a 5 1LQ ~59 1 ~59 1MO ~59 2 ~7d RL ~9J\nO 9I C q tH XP 1Xn o 2 1NB ~bb 2 ~59\nO 9I C q tH XP 1KY o 2 1NB ~bb 2 ~59\nO 9I C q tH XP 1Xo o 2 1NB ~bb 2 ~59\nO 9I C q tH XP 1LP o 2 1NB ~bb 2 ~59\nO Jp\nO Jp\nO Jp\nO Jp\nO Jp\nO Jp\nO 9I C q tH XP 1Xm o 2 1NB ~bb 2 ~59\nO 9I C q 27h XP 1KX o 1 2 ~59\nO kA a 2 11W ~59 NL ~59\nO 8N a a 11W ~59 1M1 ~1B5 1M2 ~7d 1M3 ~7d 1M4 ~7d 1M5 ~8O 1M6 ~8P 1M7 ~7d 27i 4f 1M8 ~8P o 1 1M9 ~7d\nT 5k P = 1iQ 1 5l 2 1AU 5l C o 4e a 9 1LQ ~59 RL ~9J 2 ~59 1L2 1AW RI 1AX 1Or 1AY 13k 1AZ 1L3 1B0 1M0 1B1\nO 1AU a 1 27j ~9J\nO 9I C ^ o 1 1NE ~bb\nO 9F I k ~59 o 1 1Ns 1B4\nO b0 F 1B3 a 5 1LQ ~59 1 ~59 1MO ~59 2 ~59 RL ~9J\nO b0 F 1B2 a 5 1LQ ~59 1 ~59 1MO ~59 2 ~59 RL ~9J\nO 6l D ^ I k ~9J\nO 6l D ^ I k ~7d\nO 9I C q 1le 1iQ 13k o 2 1NE ~bb 2 ~59\nO 9I C q 1le 1iQ 1Or o 2 1NE ~bb 2 ~59\nO 9I C q 1le 1iQ RI o 1 2 ~59\nT hS P = My 1 1B6 4 1B5 1B6 1B7 5l C q 27k - My a 7 1LQ ~59 Oe 1B8 1LU 1B9 1LV 1Ba 2 ~7d 1MQ ~i2 1P3 ~i3\nT hS P = Mz 1 5l 2 1B6 5l C ^ a 8 1LQ ~59 2 ~59 1LT 1Bg Mg 1Bh 1L3 1Bi 1M0 1Bj 1MQ ~i2 1P3 ~i3\nT hS P = Mq 1 5l 2 1B7 5l C ^ a 9 1LQ ~59 2 ~59 1LU 1Bb 1LZ 1Bc 1LS 1Bd 1L3 1Be 1M0 1Bf 1MQ ~i2 1P3 ~i3\nO 9I C ^ o 1 1NE ~bb\nO 9I C ^\nO 9I C ^\nO 9I C ^ o 1 2 ~59\nO 9I C ^ o 1 2 ~59\nO 9I C ^ o 1 2 ~59\nO 6l D ^\nO 6l D ^\nO 9I C ^ o 1 2 ~59\nO 9I C ^ o 1 2 ~59\nO 6l D ^ Z k ~9J\nO 6l D ^ Z k ~7d\nO kA a 2 11W ~59 NL ~59\nO 8N a a 11W ~59 1M1 ~1B5 1M2 ~7d 1M3 ~7d 1M4 ~7d 1M5 ~8O 1M6 ~8P 1M7 ~7d 27i 4e 1M8 ~8P o 1 1M9 ~7d\nT 5k P = 1iM 1 5l 2 1Bm 5l C o 49 a 12 1LQ ~59 RL ~9J 2 ~59 1On ~8O 27l ~9J 27m ~9J 1L2 1Bw 27n 1Bx 27o 1By 27p 1Bz 27q 1BA 27r 1BB 27s 1BC 27t 1BD 27u 1BE 27v 1BF 27w 1BG 1No 1BH 27x 1BI 27y 1BJ 27z 1BK 1Zj 1BL 27A 1BM 27B 1BN 27C 1BO 1L6 1BP 1Mf 1BQ 27D 1BR UA 1BS 27E 1BT 27F 1BU 10L 1BV 10M 1BW 1L5 1BX 1ge 1BY 27G 1BZ 129 1C0 27H 1C1 27I 1C2 27J 1C3 27K 1C4 mT 1C5 27L 1C6 209 1C7 Rg 1C8 wg 1C9 27M 1Ca 27N 1Cb 1kf 1Cc op 1Cd 24n 1Ce 10R 1Cf 27O 1Cg 27P 1Ch 27Q 1Ci 27R 1Cj 1YP 1Ck 27S 1Cl 27T 1Cm MM 1Cn 27U 1Co 27V 1Cp 27W 1Cq 1KY 1Cr\nO LI C q 1Ay - 5x a 8 1cB ~8P 1TQ ~7d 1Wx Ll 1On ~7d 1Wy ~bb 1WA ~bb 1ZN ~8P 1LQ ~59\nT 5k P = 1lf 1 8r 4 1Bo 8r 8s 5l C ^ a 3 1LQ ~59 2 ~59 1M0 1Bv\nT 5k P = 1iR 1 5l 2 1Bp 5l C o 4e a 7 1LQ ~59 2 ~59 1L2 1Bq 27X 1Br 27Y 1Bs 1L3 1Bt 1M0 1Bu\nO 9I C ^\nO 9I C ^ o 2 1NE ~bb 2 ~59\nO 9I C ^ o 1 2 ~59\nO 6l D ^\nO 6l D ^\nO 6l D ^\nO 9I C ^ o 1 1Nr ~9J\nO b0 F 1CW a 5 1LQ ~59 1 ~59 1MO ~59 2 ~59 RL ~9J\nO b0 F 1CV a 5 1LQ ~59 1 ~59 1MO ~59 2 ~59 RL ~9J\nO b0 F 1CU a 5 1LQ ~59 1 ~59 1MO ~59 2 ~59 RL ~9J\nO b0 F 1CT a 5 1LQ ~59 1 ~59 1MO ~59 2 ~59 RL ~9J\nO 1CP R k $ qc 1 27Z Z k ~7d\nO 1CP R k $ qc 1 27Z Z k ~7d\nO 1CP R k $ qc 1 27Z Z k ~7d\nO 1CP R k $ qc 1 27Z Z k ~7d\nO 1CP R k $ qc 1 27Z Z k ~7d\nO 1CP R k $ qc 1 27Z Z k ~7d\nO 1CP R k $ qc 1 27Z Z k ~7d\nO 1CP R k $ qc 1 27Z Z k ~7d\nO 1CP R k $ qc 1 27Z Z k ~7d\nO 1CP R k $ qc 1 27Z Z k ~7d\nO 1CP R k $ qc 1 27Z Z k ~7d\nO 1CP R k $ qc 1 27Z Z k ~7d\nO 1CP R k $ qc 1 27Z Z k ~7d\nO 9F Z k ~59 o 1 1Ns 1CO\nO 9I C ^ o 1 2 ~59\nO 9I C ^ o 1 2 ~59\nO 9I C ^ o 1 2 ~59\nO b0 F 1CL a 5 1LQ ~59 1 ~59 1MO ~59 2 ~59 RL ~9J\nO b0 F 1CK a 5 1LQ ~59 1 ~59 1MO ~59 2 ~59 RL ~9J\nO 9I C ^\nO 9I C ^\nO 9I C ^\nO 9I C ^\nO 9F Z k ~7d o 1 1Ns 1CJ\nO 9F Z k ~7d o 1 1Ns 1CI\nO 9F Z k ~7d o 1 1Ns 1CH\nO 9F Z k ~8P o 1 1Ns 1CG\nO 9F Z k ~1Bm o 1 1Ns 1CF\nO 9F Z k ~9J o 1 1Ns 1CE\nO 9F Z k ~1Bm o 1 1Ns 1CD\nO b0 F 1CA a 5 1LQ ~59 1 ~59 1MO ~59 2 ~59 RL ~9J\nO IO C ^ Z i a 7 1Xz 1Cy 1LQ ~59 1 ~59 1MO ~59 2 ~59 RL ~9J 1NO 1Cz\nO b0 F 1Cx a 5 1LQ ~59 1 ~59 1MO ~59 2 ~59 RL ~9J\nO b0 F 1Cw a 5 1LQ ~59 1 ~59 1MO ~59 2 ~59 RL ~9J\nO 9I C ^ o 1 2 ~59\nO IO C ^ Z i a 7 1Xz 1Cu 1LQ ~59 1 ~59 1MO ~59 2 ~59 RL ~9J 1NO 1Cv\nO 9I C ^ o 2 1NE ~bb 2 ~59\nO 9I C ^ o 3 1NE ~bb 2 ~59 1Nr ~9J\nO 9I C ^ o 2 1NE ~bb 2 ~59\nO IO C ^ Z i a 7 1Xz 1Cs 1LQ ~59 1 ~59 1MO ~59 2 ~7d RL ~9J 1NO 1Ct\nO 9I C ^\nO 6v D ^ Z k ~7d\nO 6v D ^ Z k ~5j\nO 6v D ^ Z k ~7d\nO 6v D ^ Z k ~7d\nO 6v D ^ Z k ~7d\nO 6v D ^ Z k ~7d\nO 6v D ^ Z k ~59\nO 6v D ^ Z k ~7d\nO 6v D ^ Z k ~8P\nO 6v D ^ Z k ~5j\nO 6v D ^ Z k ~59\nO 9I C q 1kN 280 281 o 1 2 ~59\nO 9I C q vw 1XG 1XF o 1 1NB ~bb\nO 9I C q 1kV 1iM 24n\nO 9I C q vw 1XG 1XF o 1 1NB ~bb\nO 9I C q 1kV 1iM 27M o 1 2 ~59\nO 9I C q 1kV 1iM Rg o 1 2 ~59\nO 9I C q 1kV 1iM 209 o 1 2 ~59\nO 9I C q vw 1XG 1XF o 1 1NB ~bb\nO 9I C q 1kV 1iM 27L o 2 1NE ~bb 2 ~59\nO IO C q 1kV 1iM mT a 7 1Xz 1CB 1LQ ~59 1 ~59 1MO ~59 2 ~59 RL ~9J 1NO 1CC\nO 9I C q vw 1XG 1XF o 1 1NB ~bb\nO 9I C q 1kV 1iM mT o 1 2 ~59\nO 9I C q 1kV 1iM 27K o 1 2 ~59\nO 9I C q 1kV 1iM 27J o 1 2 ~59\nO 9I C q 1kV 1iM 27I o 1 2 ~59\nO 9I C q 1kV 1iM 27H o 1 2 ~59\nO 9I C q 1kV 1iM 129 o 1 2 ~59\nO 9I C q 1kV 1iM 27G o 1 2 ~59\nO 9I C q 1kV 1iM 1ge o 1 2 ~59\nO 9I C q 1kV 1iM 27E o 1 2 ~59\nO IO C q 1kV 1iM UA a 7 1Xz 1CM 1LQ ~59 1 ~59 1MO ~59 2 ~59 RL ~9J 1NO 1CN\nO 9I C q vw 1XG 1XF o 1 1NB ~bb\nO 9I C q 1kV 1iM UA o 1 2 ~59\nO 9I C q 1kV 1iM 27C o 1 2 ~59\nT 5k P = 1kW 1 5l 2 1CP 5l C ^ a 6 1LQ ~59 2 ~59 1On ~8O 1L2 1CQ 1MY 1CR 282 1CS\nO 9I C ^\nO 9I C ^\nO 6v D ^ I k ~5j\nO 9I C q 1kV 1iM 27q o 2 1NE ~bb 2 ~59\nO 9I C q 1kV 1iM 27p o 1 2 ~59\nO 9I C q 1kV 1iM 27o o 2 1NE ~bb 2 ~59\nO 9I C q 1kV 1iM 27n o 1 2 ~59\nO kA a 2 11W ~59 NL ~59\nO 8N a a 11W ~59 1M1 ~1B5 1M2 ~7d 1M3 ~7d 1M4 ~7d 1M5 ~8O 1M6 ~8P 1M7 ~7d 27i 4d 1M8 ~8P o 1 1M9 ~7d\nT 5k P 283 8J 1 5l 2 1CZ 5l C o 1N a g 1KX 1Ge 1KY 1Gf 10T 1Gg 1KZ 1Gh 1L0 1Gi 1L1 1Gj 1MS 1Gk 1N8 1Gl 1Nq 1Gm 1Ws 1Gn 1Nc 1Go 284 1Gp 285 1Gq 1L3 1Gr 2 ~59 1LQ ~59\nO 7c C ^ S 2V\nT 5k P 286 cX 1 5l 2 1D1 5l C o 37 a 8 1KX 1G8 1KY 1G9 10T 1Ga 1KZ 1Gb 1MS 1Gc 285 1Gd 2 ~59 1LQ ~59\nO 9I C ^ o 1 2 ~59\nO 9I C ^ o 1 2 ~59\nO 9I C ^ o 2 1NE ~bb 2 ~59\nO LK C q 1Ay - To a 8 1cB ~8P 1TQ ~7d 1Wx Ln 1On ~7d 1Wy ~bb 1WA ~bb 1ZN ~8P 1LQ ~59\nO 9I C o 3K o 2 1NE ~bb 2 ~59\nO 9I C ^ o 1 2 ~59\nT 5k P = 1jy 1 5l 2 1D8 5l C ^ a f 1LQ ~59 2 ~59 1L2 1FV 1KY 1FW 1L7 1FX 11d 1FY 11e 1FZ 1L9 1G0 287 1G1 1Nk 1G2 1Nm 1G3 1Nn 1G4 288 1G5 1L3 1G6 1M0 1G7\nO 9I C ^ o 2 1NE ~bb 2 ~59\nO LK C q 1Ay - To a 8 1cB ~8P 1TQ ~7d 1Wx Ln 1On ~7d 1Wy ~bb 1WA ~bb 1ZN ~8P 1LQ ~59\nT 5k P = 1hF 1 5l 2 1Db 5l C o 3V a 4 1LQ ~59 2 ~59 1On ~bb 289 1FU\nT 5k P = 1hG 1 bb 3 1Dc bb 5l C o 3X a m 2 ~59 1On ~bb 1Xk ~bb 1Xl ~9J 1KX 1FC 1Xm 1FD 1Xn 1FE 1KY 1FF 1Xo 1FG 1LP 1FH 1Xp ~bb 28a 1FI 28b 1FJ 1LQ ~59 RL ~9J 1Ym 1FK UA 1FL 28c 1FM 28d 1FN 28e 1FO 1NF 1FP 1Yf ~bb\nT 5k P = 1hH 1 bb 3 1Dd bb 5l C o 48 a E 2 ~59 1On ~bb 1Xk ~bb 1Xl ~9J 1KX 1EI 1Xm 1EJ 1Xn 1EK 1KY 1EL 1Xo 1EM 1LP 1EN 1Xp ~bb 1gA 1EO 1gf 1EP 1gy 1EQ 1LQ ~59 RL ~9J 28f 1ER 27F 1ES 1Mf 1ET 28g 1EU 28h 1EV 28i 1EW 1Zx 1EX 28j 1EY 28k 1EZ 28l 1F0 28m 1F1 28n 1F2 28o 1F3 28p 1F4 28q 1F5 28r 1F6 28s 1F7 28t 1F8 28u 1F9 28v 1Fa 28w 1Fb 28x 1Fc 28y 1Fd 1Yf ~bb\nO LI C q 1Ay - 5x a 8 1cB ~8P 1TQ ~7d 1Wx Ll 1On ~7d 1Wy ~bb 1WA ~bb 1ZN ~8P 1LQ ~59\nO LF C q 1Ay - 4q a 7 1cB ~8P 1TQ ~59 1Wx SV 1On ~7d 1Wy ~bb 1WA ~bb 1ZN ~8P\nT 5k P = 1jZ 1 bb 3 1Dg bb 5l C o 4d a m 2 ~59 1On ~bb 1Xk ~bb 1Xl ~9J 1KX 1Es 1Xm 1Et 1Xn 1Eu 1KY 1Ev 1Xo 1Ew 1LP 1Ex 1Xp ~bb 1Rr 1Ey 1Rs 1Ez 1gf 1EA 1LQ ~59 RL ~9J 1Mf 1EB 10k 1EC 1mP 1ED 28z 1EE 1Nm 1EF 1Yf ~bb\nT 5k P = O8 1 1Db 3 1Dh 1Db 5l C o 4d a 14 1LQ ~59 2 ~59 1On ~8O 1L2 1Di 1L9 1Dj 1Mf 1Dk 1L6 1Dl 1KY 1Dm 10R 1Dn 10L 1Do 11b 1Dp 11d 1Dq 1hw 1Dr 1gD 1Ds 28A 1Dt 28B 1Du 1gO 1Dv 28C 1Dw 28D 1Dx 28E 1Dy 28F 1Dz wg 1DA 28G 1DB 28H 1DC 28I 1DD 27q 1DE 28J 1DF 28K 1DG 28L 1DH 28M 1DI 28N 1DJ 1Lo 1DK 28O 1DL 28P 1DM 287 1DN 28Q 1DO 1kf 1DP 10i 1DQ 28R 1DR 13D 1DS 28S 1DT 28T 1DU 28U 1DV 28V 1DW 1gw 1DX 1Nk 1DY 28W 1DZ 28X 1E0 28Y 1E1 10k 1E2 28y 1E3 28z 1E4 1vC 1E5 28Z 1E6 290 1E7 291 1E8 292 1E9 293 1Ea MK 1Eb 1Rs 1Ec 288 1Ed 294 1Ee 295 1Ef 1gf 1Eg 296 1Eh 1L5 ~7d\nO 9I C ^ o 2 1NE ~bb 1Nr ~9J\nO 9I C ^\nO 9I C ^\nO 9I C ^\nO 9I C ^\nO 9I C ^\nO 9I C ^\nO 9I C ^\nO 9I C ^\nO 9F o 1 1Ns 1Er\nO 9F o 1 1Ns 1Eq\nO b0 F 1Ep a 5 1LQ ~59 1 ~59 1MO ~59 2 ~59 RL ~9J\nO b0 F 1Eo a 5 1LQ ~59 1 ~59 1MO ~59 2 ~59 RL ~9J\nO b0 F 1En a 5 1LQ ~59 1 ~59 1MO ~59 2 ~59 RL ~9J\nO b0 F 1Em a 5 1LQ ~59 1 ~59 1MO ~59 2 ~59 RL ~9J\nO 9F o 2 1Ns 1Ek 1Nt 1El\nO 9F o 2 1Ns 1Ei 1Nt 1Ej\nO 9I C ^ o 2 1NE ~bb 2 ~59\nO 9I C ^ o 1 2 ~59\nO 9I C ^ o 2 1NE ~bb 2 ~59\nO 9I C ^ o 2 1NE ~bb 2 ~59\nO 9I C ^ o 2 1NE ~bb 2 ~59\nO 9I C ^ o 2 1NE ~bb 2 ~59\nO 9I C ^ o 1 2 ~59\nO 9I C ^ o 1 2 ~59\nO 9I C ^ o 1 2 ~59\nO 9I C ^ o 3 1NE ~bb 2 ~59 1Nr ~9J\nO 9I C ^ o 2 2 ~59 1Nr ~9J\nO 9I C ^ o 1 2 ~59\nO 9I C ^ o 1 2 ~59\nO 9I C ^ o 1 2 ~59\nO 9I C ^\nO 9I C ^\nO 9I C ^ o 2 1NE ~bb 2 ~59\nO 9I C ^ o 1 2 ~59\nO 9I C ^ o 2 1NE ~bb 2 ~59\nO 9I C ^ o 2 2 ~59 1Nr ~9J\nO 9I C ^ o 1 2 ~59\nO 9I C ^ o 2 1NE ~bb 2 ~59\nO 9I C ^ o 2 1NE ~bb 2 ~59\nO 9I C ^ o 2 1NE ~bb 2 ~59\nO 9I C ^ o 2 1NE ~bb 2 ~59\nO 9I C ^ o 2 1NE ~bb 2 ~59\nO 9I C ^ o 1 2 ~59\nO 9I C ^ o 1 2 ~59\nO 9I C ^ o 1 2 ~59\nO 9I C ^ o 3 1NE ~bb 2 ~59 1Nr ~9J\nO 9I C ^ o 1 2 ~59\nO 9I C ^ o 2 1NE ~bb 2 ~59\nO 9I C ^ o 2 2 ~59 1Nr ~9J\nO 9I C ^ o 1 2 ~59\nO 9I C ^ o 1 2 ~59\nO 9I C ^ o 3 1NE ~bb 2 ~59 1Nr ~9J\nO 6v D ^\nO 6v D ^\nO 6v D ^\nO 6v D ^\nO 6v D ^\nO 6v D ^\nO 6v D ^\nO 6v D ^\nO 6v D ^\nO 9I C q 1l9 O8 28E o 1 2 ~59\nO 9I C q 1l9 O8 28E o 1 2 ~59\nO 9I C q 1l9 O8 28D o 1 2 ~59\nO 9I C q 1l9 O8 28D o 1 2 ~59\nO 9I C q 1l9 O8 28C o 2 2 ~59 1Nr ~9J\nO 9I C q 1l9 O8 1gO o 3 1NE ~bb 2 ~59 1Nr ~9J\nO 9I C q 1l9 O8 28B o 2 2 ~59 1Nr ~9J\nO 9I C q 1l9 O8 28A o 2 2 ~59 1Nr ~9J\nO 9I C q 1l9 O8 1gD o 1 2 ~59\nO 9I C q 1l9 O8 1hw o 1 2 ~59\nO bz C t 1NP F 1EH\nO b0 F 1EG a 5 1LQ ~59 1 ~59 1MO ~59 2 ~7d RL ~9J\nO 9I C q tH 1jZ 1Xn o 2 1NB ~bb 2 ~59\nO 9I C ^\nO 9I C q tH 1jZ 1Xo o 2 1NB ~bb 2 ~59\nO 9I C q tH 1jZ 1LP o 2 1NB ~bb 2 ~59\nO Jp\nO Jp\nO Jp\nO 9I C ^\nO 9I C ^ o 1 2 ~59\nO 9I C ^ o 1 2 ~59\nO 9I C ^ o 1 2 ~59\nO 9I C ^ o 1 2 ~59\nO 9I C q tH 1jZ 1Xm o 2 1NB ~bb 2 ~59\nO 9I C q 297 1jZ 1KX o 2 1NE ~bb 2 ~59\nO bz C t 1NP F 1FB\nO b0 F 1FA a 5 1LQ ~59 1 ~59 1MO ~59 2 ~7d RL ~9J\nO 9I C q tH 1hH 1Xn o 2 1NB ~bb 2 ~59\nO 9I C q 1kN 280 281 o 1 2 ~59\nO 9I C q tH 1hH 1Xo o 2 1NB ~bb 2 ~59\nO 9I C q tH 1hH 1LP o 2 1NB ~bb 2 ~59\nO Jp\nO Jp\nO Jp\nO 9F o 1 1Ns 1Fz\nO 9I C ^ a 1 298 ~8P\nO 9I C ^ o 1 2 ~59\nO 9F o 1 1Ns 1Fy\nO b0 F 1Fv a 5 1LQ ~59 1 ~59 1MO ~59 2 ~7d RL ~9J\nO 9I C ^ o 1 2 ~59\nO b0 F 1Fu a 5 1LQ ~59 1 ~59 1MO ~59 2 ~59 RL ~9J\nO b0 F 1Ft a 5 1LQ ~59 1 ~59 1MO ~59 2 ~59 RL ~9J\nO b0 F 1Fs a 5 1LQ ~59 1 ~59 1MO ~59 2 ~59 RL ~9J\nO b0 F 1Fr a 5 1LQ ~59 1 ~59 1MO ~59 2 ~59 RL ~9J\nO b0 F 1Fq a 5 1LQ ~59 1 ~59 1MO ~59 2 ~59 RL ~9J\nO b0 F 1Fp a 5 1LQ ~59 1 ~59 1MO ~59 2 ~59 RL ~9J\nO b0 F 1Fo a 5 1LQ ~59 1 ~59 1MO ~59 2 ~59 RL ~9J\nO b0 F 1Fn a 5 1LQ ~59 1 ~59 1MO ~59 2 ~59 RL ~9J\nO b0 F 1Fm a 5 1LQ ~59 1 ~59 1MO ~59 2 ~59 RL ~9J\nO b0 F 1Fl a 5 1LQ ~59 1 ~59 1MO ~59 2 ~59 RL ~9J\nO b0 F 1Fk a 5 1LQ ~59 1 ~59 1MO ~59 2 ~59 RL ~9J\nO b0 F 1Fj a 5 1LQ ~59 1 ~59 1MO ~59 2 ~59 RL ~9J\nO b0 F 1Fi a 5 1LQ ~59 1 ~59 1MO ~59 2 ~59 RL ~9J\nO b0 F 1Fh a 5 1LQ ~59 1 ~59 1MO ~59 2 ~59 RL ~9J\nO b0 F 1Fg a 5 1LQ ~59 1 ~59 1MO ~59 2 ~59 RL ~9J\nO b0 F 1Ff a 5 1LQ ~59 1 ~59 1MO ~59 2 ~59 RL ~9J\nO b0 F 1Fe a 5 1LQ ~59 1 ~59 1MO ~59 2 ~59 RL ~9J\nO 9I C q 1kS 1hH 28y o 1 2 ~59\nO 9I C q 1kS 1hH 28x o 1 2 ~59\nO 9I C q 1kS 1hH 28w o 1 2 ~59\nO 9I C q 1kS 1hH 28v o 1 2 ~59\nO 9I C q 1kS 1hH 28u o 1 2 ~59\nO 9I C q 1kS 1hH 28t o 2 1NE ~bb 2 ~59\nO 9I C q 1kS 1hH 28s o 2 1NE ~bb 2 ~59\nO 9I C q 1kS 1hH 28r o 2 1NE ~bb 2 ~59\nO 9I C q 1kS 1hH 28q o 2 1NE ~bb 2 ~59\nO 9I C q 1kS 1hH 28p o 1 2 ~59\nO 9I C q 1kS 1hH 28o o 1 2 ~59\nO 9I C q 1kS 1hH 28n o 2 1NE ~bb 2 ~59\nO 9I C q 1kS 1hH 28m o 2 1NE ~bb 2 ~59\nO 9I C q 1kS 1hH 28l o 1 2 ~59\nO 9I C q 1kS 1hH 28k o 2 1NE ~bb 2 ~59\nO 9I C q 1kS 1hH 28j o 2 1NE ~bb 2 ~59\nO 9I C q 1kS 1hH 1Zx o 1 2 ~59\nO IO C q 1kS 1hH 28h a 7 1Xz 1Fw 1LQ ~59 1 ~59 1MO ~59 2 ~7d RL ~9J 1NO 1Fx\nO 9I C q vw 1XG 1XF o 1 1NB ~bb\nO 9I C q 1kS 1hH 28h\nO 9I C q 1kS 1hH 28g o 1 2 ~59\nO 9I C q 1kS 1hH 28f o 1 2 ~59\nO 9I C q tH 1hH 1Xm o 2 1NB ~bb 2 ~59\nO 9I C q 299 1hH 1KX o 2 1NE ~bb 2 ~59\nO bz C t 1NP F 1FT\nO b0 F 1FS a 5 1LQ ~59 1 ~59 1MO ~59 2 ~7d RL ~9J\nO 9I C q tH 1hG 1Xn o 2 1NB ~bb 2 ~59\nO 9I C q tH 1hG 1KY o 2 1NB ~bb 2 ~59\nO 9I C q tH 1hG 1Xo o 2 1NB ~bb 2 ~59\nO 9I C q tH 1hG 1LP o 2 1NB ~bb 2 ~59\nO Jp\nO Jp\nO 9F o 1 1Ns 1FR\nO 9I C ^ o 1 2 ~59\nO 9I C ^ o 1 2 ~59\nO 9I C ^ o 1 2 ~59\nO 9I C ^ o 2 1NE ~bb 2 ~59\nO b0 F 1FQ a 5 1LQ ~59 1 ~59 1MO ~59 2 ~59 RL ~9J\nO 9I C q 1kg 1hG 1NF o 1 2 ~59\nO 9I C q 1kg 1hG 1Ym o 1 2 ~59\nO 9I C q tH 1hG 1Xm o 2 1NB ~bb 2 ~59\nO 9I C q 29a 1hG 1KX o 2 1NE ~bb 2 ~59\nO 9I C ^\nO 9I C ^ o 1 1NE ~bb\nO 9I C ^\nO 9I C ^\nO 9I C ^\nO 9I C ^\nO 9I C ^\nO 9I C ^ o 1 2 ~59\nO 9I C ^\nO 9I C ^\nO 9I C ^ o 1 1NE ~bb\nO 9I C ^ o 2 1NE ~bb 2 ~59\nO 6l D ^\nO 6l D ^\nO 7c C b S 1D1 o 1 1LQ ~7d\nO 6R C d D ^\nO 6R C d D ^\nO 6R C d D ^\nO 6G C d D ^ o 1 1L4 ~7d\nO 6v D ^\nO 7c C b S 1CZ o 1 1LQ ~7d\nO 6R C d D ^\nO 6R C d D ^\nO 6R C d D ^\nO 6R C d D ^\nO 6R C d D ^\nO 6G C d D ^ Y 7c o 2 2 ~7d 1L4 ~7d\nO 6G C d D ^ Y 7c o 2 2 ~7d 1L4 ~7d\nO 72 C d D ^ Y 7c\nO 6v D ^ I k F5 o 1 2 ~59\nO 6v D ^ I k ~bb o 1 2 ~59\nO 6v D ^ I k ~9J o 1 2 ~59\nO 6v D ^ I k ~5j\nO 6l D ^ I k ~9J o 1 2 ~7d\nO kA a 2 11W ~59 NL ~59\nO 8N a a 11W ~59 1M1 ~1B5 1M2 ~7d 1M3 ~7d 1M4 ~7d 1M5 ~8O 1M6 ~8P 1M7 ~7d 27i 4c 1M8 ~8P o 1 1M9 ~7d\nT 5k P = 1ih 1 bb 3 1Gu bb 5l C o 3M a k 2 ~59 1On ~bb 1Xk ~bb 1Xl ~9J 1KX 1GT 1Xm 1GU 1Xn 1GV 1KY 1GW 1Xo 1GX 1LP 1GY 1Xp ~bb 29b 1GZ 29c 1H0 29d 1H1 1LQ ~59 RL ~9J pe 1H2 29e 1H3 29f 1H4 1Yf ~bb\nT 5k P = 1hk 1 5l 2 1Gv 5l C o 40 a 8 1LQ ~59 2 ~59 1L2 1GL 11d 1GM 29g 1GN 1dk 1GO 1L3 1GP 1M0 1GQ\nO LD C q 1Ay - 1H a 7 1cB ~8P 1TQ ~59 1Wx bb 1On ~7d 1Wy ~bb 1WA ~bb 1ZN ~8P\nT 5k P = 1iP 1 5l 2 1Gx 5l C o 4c a 5 1LQ ~59 2 ~59 1L2 1GI 1L3 1GJ 1M0 1GK\nO 1Gx a 3 29h ~1Gu 29i ~1Gu 29j 1GH\nO 1Gx a 3 29h ~1Gu 29i ~1Gu 29j 1GG\nO 1Gx a 3 29h ~1Gu 29i ~1Gu 29j 1GF\nO 1Gx a 3 29h ~1Gu 29i ~1Gu 29j 1GE\nO 1Gx a 3 29h ~1Gu 29i ~1Gu 29j 1GD\nO 1Gv a 1 29k ~8O o 1 1dk ! 1GO 1GD\nO 1Gv a 1 29k ~8O o 1 1dk ! 1GO 1GE\nO 1Gv a 1 29k ~8O o 1 1dk ! 1GO 1GF\nO 1Gv a 1 29k ~8O o 1 1dk ! 1GO 1GG\nO 1Gv a 1 29k ~8O o 1 1dk ! 1GO 1GH\nO 9I C ^ o 1 1NE ~bb\nO 6l D ^ I k ~9J\nO 6l D ^ I k ~7d\nO 9I C ^\nO 9I C ^\nO 9I C ^\nO IO C ^ I i a 7 1Xz 1GR 1LQ ~59 1 ~59 1MO ~59 2 ~59 RL ~9J 1NO 1GS\nO 6l D ^ I k ~9J\nO 6l D ^ I k ~7d\nO 9I C q vw 1XG 1XF o 1 1NB ~bb\nO 9I C q 1km 1hk 1dk o 1 2 ~59\nO bz C t 1NP F 1H9\nO b0 F 1H8 a 5 1LQ ~59 1 ~59 1MO ~59 2 ~7d RL ~9J\nO 9I C q tH 1ih 1Xn o 2 1NB ~bb 2 ~59\nO 9I C q tH 1ih 1KY o 2 1NB ~bb 2 ~59\nO 9I C q tH 1ih 1Xo o 2 1NB ~bb 2 ~59\nO 9I C q tH 1ih 1LP o 2 1NB ~bb 2 ~59\nO Jp Z k ~5j\nO Jp Z k ~5j\nO Jp Z k ~5j\nO 9F Z k ~59 o 1 1Ns 1H7\nO 9F Z k ~59 o 1 1Ns 1H6\nO 9F Z k ~bb o 1 1Ns 1H5\nO 9I C q 1iu 1ih 29f o 1 2 ~59\nO 9I C q 1iu 1ih 29e o 1 2 ~59\nO 9I C q 1iu 1ih pe o 1 2 ~59\nO 9I C q tH 1ih 1Xm o 2 1NB ~bb 2 ~59\nO 9I C q 29l 1ih 1KX o 2 1NE ~bb 2 ~59\nO kA a 2 11W ~59 NL ~59\nO 8N a a 11W ~59 1M1 ~1B5 1M2 ~7d 1M3 ~7d 1M4 ~7d 1M5 ~8O 1M6 ~8P 1M7 ~7d 27i 4b 1M8 ~8P o 1 1M9 ~7d\nO 9I C ^ o 3 1NE ~bb 2 ~59 1Nr ~9J\nO 9I C ^ o 2 2 ~59 1Nr ~9J\nO 9I C ^ o 1 2 ~59\nO 9I C ^ o 1 2 ~59\nO 9I C ^ o 2 1NE ~bb 2 ~59\nO 9I C ^ o 1 2 ~59\nO LK C q 1Ay - To a 8 1cB ~8P 1TQ ~7d 1Wx Ln 1On ~7d 1Wy ~bb 1WA ~bb 1ZN ~8P 1LQ ~59\nT 5k P = 1kk 1 1Db 3 1Hj 1Db 5l C ^ a a 1LQ ~59 2 ~59 1L2 1It 1vI 1Iu lh 1Iv 1KY 1Iw 287 1Ix 28Q 1Iy 1L3 1Iz 1M0 1IA\nO LI C q 1Ay - 5x a 8 1cB ~8P 1TQ ~7d 1Wx Ll 1On ~7d 1Wy ~bb 1WA ~bb 1ZN ~8P 1LQ ~59\nO 9I C o 43 o 1 2 ~59\nT 5k P = 1l1 1 5l 2 1Hm 5l C ^ a t 1LQ ~59 RL ~9J 2 ~59 AT ~59 29m ~59 29n ~59 29o ~59 1gf ~59 288 ~59 29p ~59 295 ~59 22V ~7d 29q ~7d 29r ~7d 29s ~7d 294 ~8P 1cs ~5j wg 1Ii 1gq 1Ij 29t 1Ik 1L3 1Il 1M0 1Im 29u ~1I5 29v ~9J 1L2 1In 1KY 1Io 10L 1Ip 1L5 ~7d 1Xp ~bb\nT 5k P = 1l2 1 5l 2 1Hn 5l C ^ a e 1LQ ~59 RL ~9J 2 ~59 1gf ~7d 29w ~8P 1L3 1I3 1M0 1I4 29u ~1I5 29v ~9J 1L2 1I6 1KY 1I7 10L 1I8 1L5 ~7d 1Xp ~bb\nT 5k P = 1l3 1 bb 3 1Ho bb 5l C ^ a h 2 ~59 1On ~bb 1Xk ~bb 1Xl ~9J 1KX 1HS 1Xm 1HT 1Xn 1HU 1KY 1HV 1Xo 1HW 1LP 1HX 1Xp ~bb 1gf 1HY 29x 1HZ 29p 1I0 1LQ ~59 RL ~9J 1Yf ~bb\nT 5k P = 1kQ 1 1Db 3 1Hp 1Db 5l C o 4b a n 1LQ ~59 RL ~9J 2 ~59 1L2 1Hq 29y 1Hr 1Yo 1Hs 29z 1Ht 29A 1Hu 29B 1Hv 28Q 1Hw 1gI 1Hx 29C 1Hy 29D 1Hz 29E 1HA 287 1HB 29F 1HC 29G 1HD 29H 1HE 29I 1HF 29J 1HG 29K 1HH 1L3 1HI 1M0 1HJ\nO 9I C ^ o 1 1Nr ~9J\nO b0 F 1HR a 5 1LQ ~59 1 ~59 1MO ~59 2 ~59 RL ~9J\nO 9F o 2 1Ns 1HP 1Nt 1HQ\nO 9F o 1 1Ns 1HO\nO 9F o 1 1Ns 1HN\nO 9I C ^ o 1 2 ~59\nO 9I C ^\nO 9F o 2 1Ns 1HL 1Nt 1HM\nO 9I C ^ o 3 1NE ~bb 2 ~59 1Nr ~9J\nO 9I C ^ o 2 2 ~59 1Nr ~9J\nO 9I C ^ o 1 2 ~59\nO 9I C ^\nO 9I C ^ o 1 2 ~59\nO b0 F 1HK a 5 1LQ ~59 1 ~59 1MO ~59 2 ~59 RL ~9J\nO 9I C ^ o 1 2 ~59\nO 9I C ^ o 1 2 ~59\nO 9I C ^ o 1 2 ~59\nO 9I C ^\nO 6l D ^\nO 6l D ^\nO 9I C q 1l0 1kQ 29G o 1 2 ~59\nO 9I C q 1l0 1kQ 1gI o 1 2 ~59\nO 9I C q 1l0 1kQ 1gI o 1 2 ~59\nO 9I C q 1l0 1kQ 29A o 1 2 ~59\nO 9I C q 1l0 1kQ 29z o 1 2 ~59\nO 9I C q 1l0 1kQ 1Yo o 1 2 ~59\nO 9I C q 1l0 1kQ 1Yo o 1 2 ~59\nO 9I C q 1l0 1kQ 29y o 2 2 ~59 1Nr ~9J\nO bz C t 1NP F 1I2\nO b0 F 1I1 a 5 1LQ ~59 1 ~59 1MO ~59 2 ~7d RL ~9J\nO 9I C q tH 1l3 1Xn o 2 1NB ~bb 2 ~59\nO 9I C q tH 1l3 1KY o 2 1NB ~bb 2 ~59\nO 9I C q tH 1l3 1Xo o 2 1NB ~bb 2 ~59\nO 9I C q tH 1l3 1LP o 2 1NB ~bb 2 ~59\nO Jp\nO Jp\nO Jp\nO 9I C q tH 1l3 1Xm o 2 1NB ~bb 2 ~59\nO 9I C q 29L 1l3 1KX o 2 1NE ~bb 2 ~59\nO 6l D ^\nO 6l D ^\nT 5k P = yt 1 5l 2 1I5 5l C ^ a b 1LQ ~59 1On ~bb 1L2 1Ia 1KY 1Ib cN 1Ic 29M 1Id Xy 1Ie 29N 1If pu 1Ig 29O 1Ih 2 ~7d o 1 2 ~7d\nO 9I C ^ o 1 1NE ~bb\nO 9I C ^ a 1 1NO 1I9 o 1 1NB ~bb\nO 9I C ^\nO 9I C q 1l0 29P 1KY\nO 9I C ^\nO 9I C ^\nO 6v D ^ Z k ~8P\nO 6v D ^ Z k ~8P\nO 6v D ^ Z k ~8P\nO 6v D ^ Z k ~8P\nO 6v D ^ Z k ~8P\nO 6v D ^ Z k ~8P\nO 9I C ^ o 1 2 ~59\nO 9F o 1 1Ns 1Is\nO 9F o 1 1Ns 1Ir\nO 6l D ^\nO 6l D ^\nO 9I C ^ o 2 1NB ~bb 1NE ~bb\nO 9I C ^ a 1 1NO 1Iq o 1 1NB ~bb\nO 9I C ^\nO 9I C q 1l0 29P 1KY\nO 9I C q 1l0 1l1 29t o 1 2 ~59\nO 9I C q 1l0 1l1 1gq o 1 2 ~59\nO 9I C ^ o 2 1NE ~bb 1Nr ~9J\nO b0 F 1IC a 5 1LQ ~59 1 ~59 1MO ~59 2 ~59 RL ~9J\nO bz C ^ F 1IB a 5 1LQ ~59 1 ~59 1MO ~59 2 ~59 RL ~9J\nO 9I C ^\nO 9I C ^\nO 9I C ^\nO 6l D ^\nO 6l D ^\nO 9I C q 1ki 1kk lh o 1 2 ~59\nO 9I C q 1ki 1kk 1vI o 1 2 ~59\nO kA a 2 11W ~59 NL ~59\nO 8N a a 11W ~59 1M1 ~1B5 1M2 ~7d 1M3 ~7d 1M4 ~7d 1M5 ~8O 1M6 ~8P 1M7 ~7d 27i 4a 1M8 ~8P o 1 1M9 ~7d\nT 5k P = 1iN 1 5l 2 1IF 5l C o 4a a 7 1LQ ~59 2 ~59 1L2 1IG 287 1IH 28Q 1II 1L3 1IJ 1M0 1IK\nO 9I C ^\nO 9I C ^\nO 9I C ^\nO 6l D ^\nO 6l D ^\nO kA a 2 11W ~59 NL ~59\nO 8N a a 11W ~59 1M1 ~1B5 1M2 ~7d 1M3 ~7d 1M4 ~7d 1M5 ~8O 1M6 ~8P 1M7 ~7d 27i 49 1M8 ~8P o 1 1M9 ~7d\nO 7c C ^ S 2U\nO 7c C ^ S 2U\nO WO C q Di dg 1cF F 1eg S 1JO\nT 5k P = 1ir 1 bb 3 1IQ bb 5l C ^ a v 2 ~59 1On ~bb 1Xk ~bb 1Xl ~9J 1KX 1Jb 1Xm 1Jc 1Xn 1Jd 1KY 1Je 1Xo 1Jf 1LP 1Jg 1Xp ~bb 11W 1Jh q1 1Ji 29Q 1Jj 29R 1Jk 1LQ ~59 RL ~9J 29g 1Jl 27F 1Jm 12n 1Jn 29S 1Jo 29T 1Jp 29U 1Jq 28B 1Jr 29V 1Js 29W 1Jt 29X 1Ju mT 1Jv 29Y 1Jw 29Z 1Jx 1Yf ~bb\nT 5k P = 1ip 1 8r 4 1IR 8r 8s 5l C ^ a 3 1LQ ~59 2 ~59 1M0 1Ja\nT Gz P = 1im 1 1qg 6 1IS 1qg 5j 1jm Fp 5l C ^ a j 1WD GA 1LQ ~59 2 ~59 1KY 1J4 1L6 1J5 1WF 5m 1WG ~8P 1WH ~8O 1WI ~9J 1WJ ~9J 1WK ~8O 1WL 5j 1WM 5n 2a0 1J6 2a1 1J7 2a2 1J8 1il 1J9 1LM 6f 1KX GE\nO 9I C ^ o 2 1NE ~bb 2 ~59\nO LD C q 1Ay - 4g a 7 1cB ~8P 1TQ ~59 1Wx zP 1On ~7d 1Wy ~bb 1WA ~bb 1ZN ~8P\nO 9I C o 45 o 2 1NE ~bb 1Nr ~9J\nT 5k P = 1kY 1 5l 2 1IW 5l C ^ a 9 1LQ ~59 2 ~59 1On ~8O 1L2 1IX 1KY 1IY 2a3 1IZ 2a4 1J0 1Nn 1J1 2a5 1J2\nO 9I C ^\nO 9I C ^\nO 9F o 1 1Ns 1J3\nO 9I C ^ o 1 2 ~59\nO 9I C ^ o 1 2 ~59\nO 6v D ^\nO 9I C q 1kV 1kY 2a3 o 1 2 ~59\nO 9I C ^\nO 9I C ^\nO 1IS a 4 1Xa ~5j 1Xb ~59 1N1 1IS 1Xc ~5j\nO 1IS a 4 1Xa ~5j 1Xb ~59 1N1 1IS 1Xc ~5j\nO 1IS a 4 1Xa ~5j 1Xb ~59 1N1 1IS 1Xc ~5j\nO 1IS a 4 1Xa ~5j 1Xb ~59 1N1 1IS 1Xc ~5j\nO 6l D ^\nO bz C t 1NP F 1JN\nO b0 F 1JM a 5 1LQ ~59 1 ~59 1MO ~59 2 ~7d RL ~9J\nO 9I C q tH 1ir 1Xn o 2 1NB ~bb 2 ~59\nO 9I C q 1kN 280 281 o 1 2 ~59\nO 9I C q tH 1ir 1Xo o 2 1NB ~bb 2 ~59\nO 9I C q tH 1ir 1LP o 2 1NB ~bb 2 ~59\nO Jp\nO Jp\nO Jp\nO Jp\nO 9I C ^ o 1 2 ~59\nO 9I C ^\nO 9F o 1 1Ns 1JL\nO 9F o 1 1Ns 1JK\nO 9F o 1 1Ns 1JJ\nO 9I C ^ o 2 1NE ~bb 2 ~59\nO b0 F 1JI a 5 1LQ ~59 1 ~59 1MO ~59 2 ~59 RL ~9J\nO b0 F 1JH a 5 1LQ ~59 1 ~59 1MO ~59 2 ~59 RL ~9J\nO b0 F 1JG a 5 1LQ ~59 1 ~59 1MO ~59 2 ~59 RL ~9J\nO b0 F 1JF a 5 1LQ ~59 1 ~59 1MO ~59 2 ~59 RL ~9J\nO b0 F 1JC a 5 1LQ ~59 1 ~59 1MO ~59 2 ~59 RL ~9J\nO IO C ^ a 7 1Xz 1JA 1LQ ~59 1 ~59 1MO ~59 2 ~59 RL ~9J 1NO 1JB\nO IO C ^ a 7 1Xz 1Jy 1LQ ~59 1 ~59 1MO ~59 2 ~59 RL ~9J 1NO 1Jz\nO 9I C q vw 1XG 1XF o 1 1NB ~bb\nO 9I C q 1if 1ir 29Z o 1 2 ~59\nO 9I C q vw 1XG 1XF o 1 1NB ~bb\nO 9I C q 1if 1ir 29Y o 2 1NE ~bb 2 ~59\nO IO C q 1if 1ir mT a 7 1Xz 1JD 1LQ ~59 1 ~59 1MO ~59 2 ~59 RL ~9J 1NO 1JE\nO 9I C q vw 1XG 1XF o 1 1NB ~bb\nO 9I C q 1if 1ir mT o 1 2 ~59\nO 9I C q 1if 1ir 29X o 1 2 ~59\nO 9I C q 1if 1ir 29W o 1 2 ~59\nO 9I C q 1if 1ir 29V o 1 2 ~59\nO 9I C q 1if 1ir 28B o 1 2 ~59\nO 9I C q 1if 1ir 29T o 1 2 ~59\nO 9I C q 1if 1ir 29S o 1 2 ~59\nO 9I C q 1if 1ir 12n o 1 2 ~59\nO 9I C q tH 1ir 1Xm o 2 1NB ~bb 2 ~59\nO 9I C q 2a6 1ir 1KX o 2 1NE ~bb 2 ~59\nO 1cw a 1 279 ~7d\nO kA a 2 11W ~59 NL ~59\nO 8N a a 11W ~59 1M1 ~1B5 1M2 ~7d 1M3 ~7d 1M4 ~7d 1M5 ~8O 1M6 ~8P 1M7 ~7d 27i 48 1M8 ~8P o 1 1M9 ~7d\nT 5k P 2a7 I5 0 5l 2 1JR 5l C o 2n a 6 1KX 1Lo 1KZ 1Lp 1L7 1Lq 1PP 1Lr 1MS 1Ls 2 ~59 o 1 1L4 ~59\nO 9I C ^ o 2 1NE ~bb 2 ~59\nT 5k P 2a8 cW 1 5l 2 1JT 5l C o 37 a 8 1KX 1Li 1KY 1Lj 10T 1Lk 1KZ 1Ll 1MS 1Lm 285 1Ln 2 ~59 1LQ ~59\nO oA C q pA 1dt 1dk S ~oB o 1 1LQ ~7d\nO IO C ^ a 7 1Xz 1Lg 1LQ ~59 1 ~59 1MO ~59 2 ~59 RL ~9J 1NO 1Lh\nO IO C ^ a 7 1Xz 1Le 1LQ ~59 1 ~59 1MO ~59 2 ~59 RL ~9J 1NO 1Lf\nO 1Kq a 9 lK ~8O 11W ~59 2a9 ~5j 1Ng 1Kr 2aa ~8P W0 ~8O 2ab ~8P DH ~9J 2ac 1Ks\nT Gz P = 1jC 1 1qg 6 1JY 1qg 5j 1jm Fp 5l C o 48 a t 1WD GA 1LQ ~59 2 ~59 1WF 5m 1WG ~8P 1WH ~8O 1WI ~9J 1WJ ~9J 1WK ~8O 1WL 5j 1WM 5n 2ad 1Ka 2ae 1Kb 2af 1Kc 2ag 1Kd 2ah 1Ke 2ai 1Kf 2aj 1Kg 2ak 1Kh 2al 1Ki 2am 1Kj 2an 1Kk 2ao 1Kl 2ap 1Km 2aq 1Kn 2ar 1Ko 2as 1Kp 1LM 6f 1KX GE\nO LI C q 1Ay - 5x a 8 1cB ~8P 1TQ ~7d 1Wx Ll 1On ~7d 1Wy ~bb 1WA ~bb 1ZN ~8P 1LQ ~59\nT 5k P = 1kT 1 5l 2 1K0 5l C ^ a 6 1LQ ~59 2 ~59 1L2 1K6 287 1K7 1L3 1K8 1M0 1K9\nT 5k P = 1kU 1 5l 2 1K1 5l C ^ a 6 1LQ ~59 1L2 1K2 287 1K3 1L3 1K4 1M0 1K5 2 ~7d o 1 2 ~7d\nO 9I C ^ o 2 1NE ~bb 2 ~59\nO 9I C ^\nO 6l D ^\nO 6l D ^\nO 9I C ^ o 1 1NE ~bb\nO 9I C ^\nO 6l D ^\nO 6l D ^\nO 1JY a 4 1Xa ~5j 1Xb ~59 1N1 1JY 1Xc ~5j\nO 1JY a 4 1Xa ~5j 1Xb ~59 1N1 1JY 1Xc ~5j\nO 1JY a 4 1Xa ~5j 1Xb ~59 1N1 1JY 1Xc ~5j\nO 1JY a 4 1Xa ~5j 1Xb ~59 1N1 1JY 1Xc ~5j\nO 1JY a 4 1Xa ~5j 1Xb ~59 1N1 1JY 1Xc ~5j\nO 1JY a 4 1Xa ~5j 1Xb ~59 1N1 1JY 1Xc ~5j\nO 1JY a 4 1Xa ~5j 1Xb ~59 1N1 1JY 1Xc ~5j\nO 1JY a 4 1Xa ~5j 1Xb ~59 1N1 1JY 1Xc ~5j\nO 1JY a 4 1Xa ~5j 1Xb ~59 1N1 1JY 1Xc ~5j\nO 1JY a 4 1Xa ~5j 1Xb ~59 1N1 1JY 1Xc ~5j\nO 1JY a 4 1Xa ~5j 1Xb ~59 1N1 1JY 1Xc ~5j\nO 1JY a 4 1Xa ~5j 1Xb ~59 1N1 1JY 1Xc ~5j\nO 1JY a 4 1Xa ~5j 1Xb ~59 1N1 1JY 1Xc ~5j\nO 1JY a 4 1Xa ~5j 1Xb ~59 1N1 1JY 1Xc ~5j\nO 1JY a 4 1Xa ~5j 1Xb ~59 1N1 1JY 1Xc ~5j\nO 1JY a 4 1Xa ~5j 1Xb ~59 1N1 1JY 1Xc ~5j\nT 5k P = VI 1 1KH 3 1Kq 1KH 5l C ^ a s 1LQ ~59 2 ~59 1L2 1KQ 2at 1KR VU 1KS VT 1KT VS 1KU lH 1KV eX 1KW VR 1KX VP 1KY VQ 1KZ sp 1L0 2au 1L1 2av 1L2 1cd 1L3 25Z 1L4 2aw 1L5 2ax 1L6 2ay 1L7 2az 1L8 2aA 1L9 2aB 1La 2aC 1Lb 1KY 1Lc 1MS 1Ld VM 1Kr 2ac 1Ks\nO 1KG a 8 lK ~8O 11W ~59 2a9 ~5j 1Ng ~7d 2aa ~8P W0 ~8O 2ab ~8P DH ~9J\nO 1Kt a 6 VM 1Kr 2aD ~5j 2aE ~8P 2aF ~9J 2aG ~7d 2aH ~7d\nT 5k P = VH 1 5l 2 1Kt 5l C ^ a c 1LQ ~59 2 ~59 1L2 1Ku Je 1Kv VO 1Kw VF 1Kx Vh 1Ky 2aI 1Kz 2aJ 1KA 2aK 1KB 1L3 1KC 1M0 1KD\nO 9I C ^ o 1 2 ~59\nO 9F I k ~5j o 3 2 ~7d 1Ns 1KE 1Nt 1KF\nO 9I C ^ o 1 2 ~59\nO 9I C ^ o 1 2 ~59\nO 9I C ^ o 1 2 ~59\nO 9I C ^ o 1 2 ~59\nO 9I C ^ o 1 2 ~59\nO 9I C ^ o 1 2 ~59\nO 6l D ^ I k ~9J\nO 6l D ^ I k ~7d\nO 9I C q uy VH Je\nO 9I C q uy VH Je\nT 5k P = VJ 1 1Kq 4 1KG 1Kq 1KH 5l C ^ a 4 1LQ ~59 2 ~59 1L2 1KI 1MS 1KJ\nT 5k P = Vu 1 5l 2 1KH 5l C ^ a 8 1LQ ~59 2 ~59 1L2 1KK 2aL 1KL 2aM 1KM pM 1KN 1L3 1KO 1M0 1KP\nO 9I C ^ o 1 2 ~59\nO 9I C ^\nO 9I C ^ o 1 2 ~59\nO 9I C ^ o 1 2 ~59\nO 9I C ^ o 1 2 ~59\nO 9I C ^ o 1 2 ~59\nO 6l D ^ I k ~9J\nO 6l D ^ I k ~7d\nO 9I C ^ o 2 1NE ~bb 2 ~59\nO 9I C ^ o 1 2 ~59\nO 9I C ^ o 1 2 ~59\nO 9I C ^ o 1 2 ~59\nO 9I C ^ o 1 2 ~59\nO 9I C ^\nO 9I C ^ o 1 2 ~59\nO 9I C ^ o 2 2 ~59 1Nr ~9J\nO 9I C ^ o 1 2 ~59\nO 9I C ^ o 1 2 ~59\nO 9I C ^ o 1 2 ~59\nO 9I C ^ o 2 1NE ~bb 2 ~59\nO 9I C ^ o 2 1NE ~bb 2 ~59\nO 9I C ^ o 2 1NE ~bb 2 ~59\nO 9I C ^ o 1 2 ~59\nO 9I C ^ o 1 2 ~59\nO 9I C ^ o 1 2 ~59\nO 9I C ^ o 1 2 ~59\nO 9I C ^ o 1 2 ~59\nO 9I C ^ o 1 2 ~59\nO 9I C ^ o 1 2 ~59\nO 9I C ^ o 1 2 ~59\nO 9I C ^\nO 9I C ^\nO 9I C q vw 1XG 1XF o 1 1NB ~bb\nO 9I C q 1i9 - 1ic o 1 2 ~59\nO 9I C q vw 1XG 1XF o 1 1NB ~bb\nO 9I C q 1i9 - 1ib o 1 2 ~59\nO 7c C b S 1JT o 1 1LQ ~7d\nO 6R C d D ^\nO 6R C d D ^\nO 6R C d D ^\nO 6G C d D ^ Y 7c o 1 1L4 ~7d\nO 6v D ^ I k ~5j\nO 7c C b S 1JR o 1 1LQ ~7d\nO 6R C d D ^\nO 6R C d D ^\nO 6R C d D ^\nO 6G C d D ^ o 1 1L4 ~7d\nO kA a 2 11W ~59 NL ~59\nO 8N a a 11W ~59 1M1 ~1B5 1M2 ~7d 1M3 ~7d 1M4 ~7d 1M5 ~8O 1M6 ~8P 1M7 ~7d 27i 47 1M8 ~8P o 1 1M9 ~7d\nT 5k P = 1iL 1 5l 2 1Lv 5l C o 47 a 7 1LQ ~59 RL ~9J 2 ~59 1L2 1Lw 287 1Lx 1L3 1Ly 1M0 1Lz\nO 9I C ^ o 1 1Nr ~9J\nO 9I C ^\nO 6l D ^\nO 6l D ^\nO kA a 2 11W ~59 NL ~59\nO 8N a a 11W ~59 1M1 ~1B5 1M2 ~7d 1M3 ~7d 1M4 ~7d 1M5 ~8O 1M6 ~8P 1M7 ~7d 27i 46 1M8 ~8P o 1 1M9 ~7d\nT hS P = 1iB 1 1LW 5 1LC 1LW 1LX QU 5l C o 3U a 6 1LQ ~59 2 ~59 2aN ~59 2aO ~8O 1MQ ~i2 1P3 ~i3\nT 5k P = 1ko 1 1Db 3 1LD 1Db 5l C ^ a a 1LQ ~59 2 ~59 1L2 1LL 28Z 1LM 2aP 1LN 2aQ 1LO 287 1LP 28Q 1LQ 1L3 1LR 1M0 1LS\nT 5k P = 1iG 1 1Db 3 1LE 1Db 5l C o 42 a 7 1LQ ~59 2 ~59 1L2 1LG 287 1LH 28Q 1LI 1L3 1LJ 1M0 1LK\nO 9I C o 46 o 2 2 ~59 1Nr ~9J\nO 9I C ^ o 2 1NE ~bb 1Nr ~9J\nO 9I C ^\nO 9I C ^\nO 6l D ^\nO 6l D ^\nO 9I C ^ o 2 1NE ~bb 1Nr ~9J\nO b0 F 1LV a 5 1LQ ~59 1 ~59 1MO ~59 2 ~59 RL ~9J\nO 9F o 2 2 ~7d 1Ns 1LU\nO 9F o 2 2 ~7d 1Ns 1LT\nO 9I C ^\nO 9I C ^\nO 6l D ^\nO 6l D ^\nO 9I C q 1kn 1ko 2aQ\nO 9I C q 1kn 1ko 2aP\nO 9I C q 1kn 1ko 28Z o 3 1NE ~bb 2 ~59 1Nr ~9J\nT hS P = 1k2 1 1LX 4 1LW 1LX QU 5l C ^ a 8 1LQ ~59 RL ~9J 2 ~59 2aO ~8O 2aN ~59 2aR 1M2 1MQ ~i2 1P3 ~i3\nT hS P = 1k1 1 QU 3 1LX QU 5l C ^ a 8 1LQ ~59 2 ~59 10T 1LY 2aR 1LZ 1L3 1M0 1M0 1M1 1MQ ~i2 1P3 ~i3\nO 9I C ^ o 1 2 ~59\nO 9I C ^ a 1 1Nz ~8P o 1 2 ~59\nO 6l D ^ I k ~9J\nO 6l D ^ I k ~7d\nO 9I C ^ o 1 2 ~59\nO kA a 2 11W ~59 NL ~59\nO 8N a a 11W ~59 1M1 ~1B5 1M2 ~7d 1M3 ~7d 1M4 ~7d 1M5 ~8O 1M6 ~8P 1M7 ~7d 27i 45 1M8 ~8P o 1 1M9 ~7d\nO Lw a 6 1 ~59 1Y9 ~8P 1Ya ~8P 1Yb ~7d 1Yc ~bb 1LQ ~59\nT 5k P = 1kO 1 8r 4 1M6 8r 8s 5l C ^ a 3 1LQ ~59 2 ~59 1M0 1M8\nO 9I C ^ o 3 1NE ~bb 2 ~59 1Nr ~9J\nO 6l D ^\nO kA a 2 11W ~59 NL ~59\nO 8N a a 11W ~59 1M1 ~1B5 1M2 ~7d 1M3 ~7d 1M4 ~7d 1M5 ~8O 1M6 ~8P 1M7 ~7d 27i 44 1M8 ~8P o 1 1M9 ~7d\nT 5k P = 1iJ 1 bb 3 1Mb bb 5l C o 44 a i 2 ~59 1On ~bb 1Xk ~bb 1Xl ~9J 1KX 1Mc 1Xm 1Md 1Xn 1Me 1KY 1Mf 1Xo 1Mg 1LP 1Mh 1Xp ~bb 2aS 1Mi 2aT 1Mj 22V 1Mk 2aU 1Ml 1LQ ~59 RL ~9J 1Yf ~bb\nO bz C t 1NP F 1Mn\nO b0 F 1Mm a 5 1LQ ~59 1 ~59 1MO ~59 2 ~7d RL ~9J\nO 9I C q tH 1iJ 1Xn o 2 1NB ~bb 2 ~59\nO 9I C q tH 1iJ 1KY o 2 1NB ~bb 2 ~59\nO 9I C q tH 1iJ 1Xo o 2 1NB ~bb 2 ~59\nO 9I C q tH 1iJ 1LP o 2 1NB ~bb 2 ~59\nO Jp\nO Jp\nO Jp\nO Jp\nO 9I C q tH 1iJ 1Xm o 2 1NB ~bb 2 ~59\nO 9I C q 2aV 1iJ 1KX o 2 1NE ~bb 2 ~59\nO kA a 2 11W ~59 NL ~59\nO 8N a a 11W ~59 1M1 ~1B5 1M2 ~7d 1M3 ~7d 1M4 ~7d 1M5 ~8O 1M6 ~8P 1M7 ~7d 27i 43 1M8 ~8P o 1 1M9 ~7d\nO 9I C ^ o 1 2 ~59\nO 9I C o 43 o 1 2 ~59\nO kA a 2 11W ~59 NL ~59\nO 8N a a 11W ~59 1M1 ~1B5 1M2 ~7d 1M3 ~7d 1M4 ~7d 1M5 ~8O 1M6 ~8P 1M7 ~7d 27i 42 1M8 ~8P o 1 1M9 ~7d\nT 5k P 2aW mJ 1 5l 2 1Mu 5l C q mJ - mJ a L 1KX 1Oh 1KY 1Oi 1KZ 1Oj 10J 1Ok 10K 1Ol 10L 1Om 10M 1On 10O 1Oo 10N 1Op 1L7 1Oq 1L9 1Or 11d 1Os 11e 1Ot 11c 1Ou 10R 1Ov 110 1Ow 1La 1Ox 11b 1Oy 11f 1Oz 11l 1OA 1Nk 1OB 5i 1OC 2aX 1OD 1Rb 1OE Rh 1OF 1Rc 1OG 1Nm 1OH 2aY 1OI 2aZ 1OJ 2b0 1OK 2b1 1OL cc 1OM 1Nl 1ON 1Nn 1OO 1MR 1OP 12r 1OQ 1No 1OR 2b2 1OS 2b3 1OT 2b4 1OU 2b5 1OV 1LO 1OW 2b6 1OX 2b7 1OY 2 ~59 1L5 ~7d 1LQ ~59\nT hS P = tZ 1 zL 8 1Mv zL zM zN zO zP zQ 5l C ^ a k 1LQ ~59 1L2 1O0 1L9 1O1 11d 1O2 11e 1O3 11c 1O4 1L7 1O5 11b 1O6 1KY 1O7 113 1O8 1Mk 1O9 11n 1Oa 1Rb 1Ob wg 1Oc 1NM 1Od 1L3 1Oe 1M0 1Of 2 ~7d 1MQ ~i2 1P3 ~i3\nT hS P = u0 1 SA 9 1Mw SA Sp Sq zN zO zP zQ 5l C ^ a C 1LQ ~59 2 ~59 1L2 1Nu 1KY 1Nv 10J 1Nw 10K 1Nx 10L 1Ny 10O 1Nz 10N 1NA 2b8 1NB 11b 1NC 1L9 1ND 11d 1NE 11e 1NF 11c 1NG 10R 1NH 1Ma 1NI 11f 1NJ 110 1NK 1La 1NK 11l 1NL 1Rb 1NM 1Nk 1NN 1Nl 1NO 1Nn 1NP 12r 1NQ 1Nj 1NR wg 1NS Rh 1NT cc 1NU 1No 1NV 1Np 1NW 1Nm 1NX 1L3 1NY 1M0 1NZ 1L5 ~7d 1MQ ~i2 1P3 ~i3\nO 9I C ^ o 1 2 ~59\nO 9I C ^ o 1 2 ~59\nO 9I C ^ o 1 2 ~59\nT hS P = 1hC 1 QU 3 1MA QU 5l C ^ a 7 1LQ ~59 2 ~59 1MU 1Nq 1L3 1Nr 1M0 1Ns 1MQ ~i2 1P3 ~i3\nT 5k P = 1k7 1 5l 2 1MB 5l C ^ a 6 1LQ ~59 2 ~59 1L2 1Nm 289 1Nn 1L3 1No 1M0 1Np\nO 9I C ^ o 1 2 ~59\nO 9I C ^ o 1 2 ~59\nO 9I C ^ o 1 2 ~59\nT 5k P = 1kw 1 bb 3 1MF bb 5l C ^ a c 2 ~59 1On ~bb 1Xk ~bb 1Xl ~9J 1KX 1Ne 1Xm 1Nf 1Xn 1Ng 1KY 1Nh 1Xo 1Ni 1LP 1Nj 1Xp ~bb 1LQ ~59\nO 9I C ^ o 1 2 ~59\nO 9I C ^ o 1 1NE ~bb\nO 9I C ^ o 1 2 ~59\nO 9I C ^ o 2 1NE ~bb 2 ~59\nO 9I C ^\nO 9I C ^\nO 9I C o 42 o 1 2 ~59\nT 5k P = 1kF 1 5l 2 1MN 5l C ^ a r 1LQ ~59 RL ~9J 2 ~59 2b9 ~59 2ba ~59 2bb ~59 2bc ~59 27g ~59 2bd ~8P 2be ~8P 2bf ~8P 2bg ~7d 2bh ~59 2bi ~59 2bj 1N4 2bk 1N5 1L6 1N6 1kf 1N7 1L3 1N8 1M0 1N9 29u ~1I5 29v ~9J 1L2 1Na 1KY 1Nb 10L 1Nc 1L5 ~7d 1Xp ~bb\nT 5k P = 1kG 1 5l 2 1MO 5l C ^ a o 1LQ ~59 RL ~9J 2 ~59 1Ng ~7d 2bl ~8P 1ag ~7d 1gA ~59 1Py ~59 1pe ~59 2bm ~8P 2bd ~8P 2bn 1MT 2bk 1MU 1Yo 1MV 1L6 1MW 1L3 1MX 1M0 1MY 29u ~1I5 29v ~9J 1L2 1MZ 1KY 1N0 10L 1N1 1L5 ~7d 1Xp ~bb\nO 9I C ^ o 1 2 ~59\nO 9I C ^ o 2 1NE ~bb 2 ~59\nO 9I C ^ o 2 2 ~59 1Nr ~9J\nO 9I C ^ o 2 2 ~59 1Nr ~9J\nO 9F o 1 1Ns 1N3\nO 9I C ^ o 1 2 ~59\nO 9I C ^ o 1 2 ~59\nO 9I C ^\nO 6l D ^\nO 6l D ^\nO 9I C ^ o 1 1NE ~bb\nO 9I C ^ a 1 1NO 1N2 o 1 1NB ~bb\nO 9I C ^\nO 9I C q 1kp 29P 1KY\nO 9I C q 1kp 1kG 2bn o 1 2 ~59\nO 9I C ^ o 1 2 ~59\nO 9I C ^ o 1 2 ~59\nO 9I C ^\nO 9I C ^ o 2 1NE ~bb 2 ~59\nO 6l D ^\nO 6l D ^\nO 9I C ^ o 1 1NE ~bb\nO 9I C ^ a 1 1NO 1Nd o 1 1NB ~bb\nO 9I C ^\nO 9I C q 1kp 29P 1KY\nO bz C t 1NP F 1Nl\nO b0 F 1Nk a 5 1LQ ~59 1 ~59 1MO ~59 2 ~7d RL ~9J\nO 9I C q tH 1kw 1Xn o 2 1NB ~bb 2 ~59\nO 9I C q tH 1kw 1KY o 2 1NB ~bb 2 ~59\nO 9I C q tH 1kw 1Xo o 2 1NB ~bb 2 ~59\nO 9I C q tH 1kw 1LP o 2 1NB ~bb 2 ~59\nO 9I C q tH 1kw 1Xm o 2 1NB ~bb 2 ~59\nO 9I C q 2bo 1kw 1KX o 1 2 ~59\nO 9I C ^\nO 9I C ^\nO 6l D ^\nO 6l D ^\nO b0 F 1Nt a 5 1LQ ~59 1 ~59 1MO ~59 2 ~59 RL ~9J\nO 6l D ^\nO 6l D ^\nO 9I C q 1hB 1hC 1MU o 1 2 ~59\nO 9I C ^ o 1 1NE ~bb\nO 9I C ^\nO 9I C ^\nO 9I C ^\nO 9I C ^\nO 9I C ^\nO 9I C ^\nO 9I C q tH u0 2bp\nO 9I C ^\nO 9I C ^\nO 9I C ^\nO 9I C ^\nO 9I C ^\nO 9I C ^\nO 9I C ^\nO 9I C ^\nO 9I C ^\nO 9I C ^\nO 9I C ^\nO 9I C ^\nO 9I C ^\nO 9I C ^ o 1 1NE ~bb\nO 9I C ^\nO 9I C ^\nO 9I C ^\nO 9I C ^\nO 9I C ^\nO 9I C ^\nO 9I C ^\nO 9I C ^\nO 6l D ^\nO 6l D ^\nO 9I C ^ o 1 1NE ~bb\nO 9I C ^\nO 9I C ^\nO 9I C ^\nO 9I C ^\nO 9I C ^\nO 9I C ^\nO 9I C ^\nO 9I C ^\nO 9I C ^\nO 9I C ^\nO 9I C ^\nO 9I C ^\nO b0 F 1Og a 5 1LQ ~59 1 ~59 1MO ~59 2 ~7d RL ~9J\nO 6l D ^\nO 6l D ^\nO 9I C q tH tZ 1NM o 1 1NE ~bb\nO 7c C b S 1Mu o 1 1LQ ~7d\nO 6R C d D ^\nO 6R C d D ^\nO 6R C d D ^\nO 6R C d D ^\nO 6R C d D ^\nO 6R C d D ^\nO 6R C d D ^\nO 6R C d D ^\nO 6R C d D ^\nO 6R C d D ^\nO 6R C d D ^\nO 6R C d D ^\nO 6R C d D ^\nO 6R C d D ^\nO 6R C d D ^\nO 6R C d D ^\nO 6R C d D ^\nO 6R C d D ^\nO 6R C d D ^\nO 6G C d D ^\nO 6G C d D ^\nO 6G C d D ^\nO 6G C d D ^\nO 6G C d D ^\nO 6G C d D ^\nO 6G C d D ^\nO 6G C d D ^\nO 6G C d D ^\nO 6G C d D ^\nO 6G C d D ^\nO 6G C d D ^\nO 6G C d D ^\nO 6G C d D ^\nO 6G C d D ^\nO 6G C d D ^\nO 6G C d D ^\nO 6G C d D ^\nO 6G C d D ^\nO 6G C d D ^\nO 6G C d D ^\nO 6G C d D ^\nO 6l D ^\nO 6l D ^\nO kA a 2 11W ~59 NL ~59\nO 8N a a 11W ~59 1M1 ~1B5 1M2 ~7d 1M3 ~7d 1M4 ~7d 1M5 ~8O 1M6 ~8P 1M7 ~7d 27i 41 1M8 ~8P o 1 1M9 ~7d\nO 1P2 a v 2bq ~59 oZ ~8P 2br ~59 2bs ~59 2bt ~59 2bu ~59 2bv ~59 2bw ~59 2bx ~59 2by ~59 2bz ~59 2bA ~59 2bB ~59 2bC ~59 2bD ~59 2bE ~59 2bF ~59 2bG ~59 2bH ~59 2bI ~59 2bJ ~59 2bK ~59 2bL ~59 2bM ~59 2bN ~59 2bO ~59 2bP ~59 2bQ ~59 2bR ~59 2bS ~59 2bT ~59\nT 5k P = 1hO 1 5l 2 1P2 5l C ^ a c 1LQ ~59 2 ~59 1L2 1P4 1KY 1P5 1L6 1P6 23Y 1P7 2bU 1P8 2bV 1P9 2bW 1Pa 2bX 1Pb 1L3 1Pc 1M0 1Pd\nO 9I C o 3X o 1 2 ~59\nO 9I C ^ o 1 1Nr ~9J\nO 9I C ^\nO 9I C ^\nO 9I C ^ o 2 1NE ~bb 2 ~59\nO 9I C ^ o 1 2 ~59\nO 9I C ^ o 1 2 ~59\nO 9I C ^ o 2 1NE ~bb 2 ~59\nO 9I C ^ o 1 2 ~59\nO 6l D ^ I k ~9J\nO 6l D ^ I k ~7d\nO kA a 2 11W ~59 NL ~59\nO 8N a a 11W ~59 1M1 ~1B5 1M2 ~7d 1M3 ~7d 1M4 ~7d 1M5 ~8O 1M6 ~8P 1M7 ~7d 27i 40 1M8 ~8P o 1 1M9 ~7d\nO kA a 2 11W ~59 NL ~59\nO 8N a a 11W ~59 1M1 ~1B5 1M2 ~7d 1M3 ~7d 1M4 ~7d 1M5 ~8O 1M6 ~8P 1M7 ~7d 27i 3Z 1M8 ~8P o 1 1M9 ~7d\nT hS P = 1iE 1 QU 3 1Pi QU 5l C o 3Z a 7 1LQ ~59 2 ~59 2bY 1Pm 1L3 1Pn 1M0 1Po 1MQ ~i2 1P3 ~i3\nT hS P = 1iF 1 1Pi 4 1Pj 1Pi QU 5l C o 3Z a 6 1LQ ~59 2 ~59 2bZ 1Pk 2bY 1Pl 1MQ ~i2 1P3 ~i3\nO 9I C ^\nO 9I C ^ o 1 2 ~59\nO 9I C ^ a 1 1Nz ~8P o 1 2 ~59\nO 6l D ^\nO 6l D ^\nO kA a 2 11W ~59 NL ~59\nO 8N a a 11W ~59 1M1 ~1B5 1M2 ~7d 1M3 ~7d 1M4 ~7d 1M5 ~8O 1M6 ~8P 1M7 ~7d 27i 3Y 1M8 ~8P o 1 1M9 ~7d\nO kA a 2 11W ~59 NL ~59\nO 8N a a 11W ~59 1M1 ~1B5 1M2 ~7d 1M3 ~7d 1M4 ~7d 1M5 ~8O 1M6 ~8P 1M7 ~7d 27i 3X 1M8 ~8P o 1 1M9 ~7d\nO kA a 2 11W ~59 NL ~59\nO 8N a a 11W ~59 1M1 ~1B5 1M2 ~7d 1M3 ~7d 1M4 ~7d 1M5 ~8O 1M6 ~8P 1M7 ~7d 27i 3W 1M8 ~8P o 1 1M9 ~7d\nO 9I C ^ o 1 2 ~59\nO 9I C ^ o 2 1NE ~bb 2 ~59\nT 5k P = 1jV 1 1PS 5 1Px 1PS 8r 8s 5l C ^ a 2 1LQ ~59 2 ~59\nT 5k P = 1kd 1 bb 3 1Py bb 5l C ^ a i 2 ~59 1On ~bb 1Xk ~bb 1Xl ~9J 1KX 1PF 1Xm 1PG 1Xn 1PH 1KY 1PI 1Xo 1PJ 1LP 1PK 1Xp ~bb 11W 1PL 2c0 1PM 1LQ ~59 RL ~9J 1L6 1PN 1gD 1PO 1Yf ~bb\nO LD C q 1Ay - 14 a 7 1cB ~8P 1TQ ~59 1Wx Nu 1On ~7d 1Wy ~bb 1WA ~bb 1ZN ~8P\nO LF C q 1Ay - 4q a 7 1cB ~8P 1TQ ~59 1Wx SV 1On ~7d 1Wy ~bb 1WA ~bb 1ZN ~8P\nO LF C q 1Ay - 4q a 7 1cB ~8P 1TQ ~59 1Wx SV 1On ~7d 1Wy ~bb 1WA ~bb 1ZN ~8P\nO 9I C ^ o 2 1NE ~bb 2 ~59\nO 9I C ^ o 1 2 ~59\nO 9I C o 3W o 2 1NE ~bb 2 ~59\nO bz C t 1NP F 1PR\nO b0 F 1PQ a 5 1LQ ~59 1 ~59 1MO ~59 2 ~7d RL ~9J\nO 9I C q tH 1kd 1Xn o 2 1NB ~bb 2 ~59\nO 9I C q tH 1kd 1KY o 2 1NB ~bb 2 ~59\nO 9I C q tH 1kd 1Xo o 2 1NB ~bb 2 ~59\nO 9I C q tH 1kd 1LP o 2 1NB ~bb 2 ~59\nO Jp\nO Jp\nO 9I C ^\nO 9F o 1 1Ns 1PP\nO 9I C q 1ka 1kd 1gD o 1 2 ~59\nO 9I C q tH 1kd 1Xm o 2 1NB ~bb 2 ~59\nO 9I C q 2c1 1kd 1KX o 2 1NE ~bb 2 ~59\nT 5k P = 1jP 1 8r 4 1PS 8r 8s 5l C ^ a 3 1LQ ~59 2 ~59 1M0 1PT\nO 6l D ^\nO kA a 2 11W ~59 NL ~59\nO 8N a a 11W ~59 1M1 ~1B5 1M2 ~7d 1M3 ~7d 1M4 ~7d 1M5 ~8O 1M6 ~8P 1M7 ~7d 27i 3V 1M8 ~8P o 1 1M9 ~7d\nO 9I C ^\nO 9I C ^ o 1 2 ~59\nO 9I C ^ o 1 2 ~59\nO kA a 2 11W ~59 NL ~59\nO 8N a a 11W ~59 1M1 ~1B5 1M2 ~7d 1M3 ~7d 1M4 ~7d 1M5 ~8O 1M6 ~8P 1M7 ~7d 27i 3U 1M8 ~8P o 1 1M9 ~7d\nO 9I C ^ o 1 2 ~59\nT hS P = 1iA 1 1LX 4 1Q2 1LX QU 5l C o 3U a 5 1LQ ~59 2 ~59 2aR 1Q6 1MQ ~i2 1P3 ~i3\nT hS P = 1k3 1 1LW 5 1Q3 1LW 1LX QU 5l C ^ a 9 1LQ ~59 2 ~59 2c2 ~59 2c3 ~ns 2aN ~59 2aO ~8O 2aR 1Q5 1MQ ~i2 1P3 ~i3\nT hS P = 1k4 1 1LW 5 1Q4 1LW 1LX QU 5l C ^ a 6 1LQ ~59 2 ~59 2aN ~59 2aO ~8O 1MQ ~i2 1P3 ~i3\nO 9I C ^ o 1 1NB ~bb\nO 9I C ^ o 1 2 ~59\nO kA a 2 11W ~59 NL ~59\nO 8N a a 11W ~59 1M1 ~1B5 1M2 ~7d 1M3 ~7d 1M4 ~7d 1M5 ~8O 1M6 ~8P 1M7 ~7d 27i 3T 1M8 ~8P o 1 1M9 ~7d\nT 5k P = 1jQ 1 8r 4 1Q9 8r 8s 5l C ^ a 3 1LQ ~59 2 ~59 1M0 1Qg\nT 5k P = 1jR 1 1PS 5 1Qa 1PS 8r 8s 5l C ^ a 2 1LQ ~59 2 ~59\nT 5k P = 1jS 1 1Q9 5 1Qb 1Q9 8r 8s 5l C ^ a 2 1LQ ~59 2 ~59\nT 5k P = 1jT 1 1PS 5 1Qc 1PS 8r 8s 5l C ^ a 2 1LQ ~59 2 ~59\nT 5k P = 1jU 1 1PS 5 1Qd 1PS 8r 8s 5l C ^ a 2 1LQ ~59 2 ~59\nT 5k P = 1jW 1 1PS 5 1Qe 1PS 8r 8s 5l C ^ a 2 1LQ ~59 2 ~59\nT 5k P = 1jX 1 1PS 5 1Qf 1PS 8r 8s 5l C ^ a 2 1LQ ~59 2 ~59\nO 6l D ^\nO kA a 2 11W ~59 NL ~59\nO 8N a a 11W ~59 1M1 ~1B5 1M2 ~7d 1M3 ~7d 1M4 ~7d 1M5 ~8O 1M6 ~8P 1M7 ~7d 27i 3S 1M8 ~8P o 1 1M9 ~7d\nT 5k P = 1jM 1 8r 4 1Qj 8r 8s 5l C ^ a 3 1LQ ~59 2 ~59 1M0 1Qv\nT 5k P = 1jN 1 1Db 3 1Qk 1Db 5l C ^ a d 1LQ ~59 1On ~8O 2c4 ~9J 1L2 1Ql z5 1Qm 1KY 1Qn 1L6 1Qo 287 1Qp 2c5 1Qq 11W 1Qr 1gf 1Qs 1WY 1Qt 2 ~7d o 1 2 ~7d\nO 9I C ^ o 2 1NE ~bb 2 ~59\nO b0 F 1Qu a 5 1LQ ~59 1 ~59 1MO ~59 2 ~59 RL ~9J\nO 9I C ^\nO 9I C ^\nO 9I C ^\nO 6v D ^\nO 6v D ^\nO 6v D ^\nO 6v D ^\nO 9I C q 1jL 1jN z5 o 1 2 ~59\nO 6l D ^\nO kA a 2 11W ~59 NL ~59\nO 8N a a 11W ~59 1M1 ~1B5 1M2 ~7d 1M3 ~7d 1M4 ~7d 1M5 ~8O 1M6 ~8P 1M7 ~7d 27i 3R 1M8 ~8P o 1 1M9 ~7d\nO kA a 2 11W ~59 NL ~59\nO 8N a a 11W ~59 1M1 ~1B5 1M2 ~7d 1M3 ~7d 1M4 ~7d 1M5 ~8O 1M6 ~8P 1M7 ~7d 27i 3Q 1M8 ~8P o 1 1M9 ~7d\nT 5k P = 1iy 1 5l 2 1QA 5l C o 3Q a g 1LQ ~59 2 ~59 1On ~8O 1L2 1QC 2c6 1QD 2c7 1QE 1mP 1QF 2c8 1QG 2c9 1QH 1Nj 1QI 2ca 1QJ 2cb 1QK 1Le 1QL 1L6 1QM 287 1QN 1gr 1QO\nO 9I C ^ o 2 1NE ~bb 2 ~59\nO 9I C ^\nO b0 F 1QX a 5 1LQ ~59 1 ~59 1MO ~59 2 ~59 RL ~9J\nO b0 F 1QW a 5 1LQ ~59 1 ~59 1MO ~59 2 ~59 RL ~9J\nO b0 F 1QV a 5 1LQ ~59 1 ~59 1MO ~59 2 ~59 RL ~9J\nO b0 F 1QU a 5 1LQ ~59 1 ~59 1MO ~59 2 ~59 RL ~9J\nO b0 F 1QT a 5 1LQ ~59 1 ~59 1MO ~59 2 ~59 RL ~9J\nO b0 F 1QS a 5 1LQ ~59 1 ~59 1MO ~59 2 ~59 RL ~9J\nO b0 F 1QR a 5 1LQ ~59 1 ~59 1MO ~59 2 ~59 RL ~9J\nO b0 F 1QQ a 5 1LQ ~59 1 ~59 1MO ~59 2 ~59 RL ~9J\nO b0 F 1QP a 5 1LQ ~59 1 ~59 1MO ~59 2 ~59 RL ~9J\nO 9I C ^\nO 9I C ^\nO 6v D ^\nO 9I C q 1jz 1iy 1Le o 1 2 ~59\nO 9I C q 1jz 1iy 2cb o 1 2 ~59\nO 9I C q 1jz 1iy 2ca o 1 2 ~59\nO 9I C q 1jz 1iy 1Nj o 1 2 ~59\nO 9I C q 1jz 1iy 2c9 o 1 2 ~59\nO 9I C q 1jz 1iy 2c8 o 2 1NE ~bb 2 ~59\nO 9I C q 1jz 1iy 1mP o 2 1NE ~bb 2 ~59\nO 9I C q 1jz 1iy 2c7 o 1 2 ~59\nO 9I C q 1jz 1iy 2c6 o 1 2 ~59\nO kA a 2 11W ~59 NL ~59\nO 8N a a 11W ~59 1M1 ~1B5 1M2 ~7d 1M3 ~7d 1M4 ~7d 1M5 ~8O 1M6 ~8P 1M7 ~7d 27i 3P 1M8 ~8P o 1 1M9 ~7d\nT 5k P 2cc Ri 0 5l 2 1R0 5l C ^ a 7 1KX 1Ra 1KZ 1Rb 1L7 1Rc 1PP 1Rd 1MS 1Re 1N8 1Rf 2 ~59\nO Lw a 6 1 ~59 1Y9 ~8P 1Ya ~8P 1Yb ~7d 1Yc ~bb 1LQ ~59\nT 5k P = 1jx 1 5l 2 1R2 5l C ^ a 9 1LQ ~59 2 ~59 1L2 1R3 287 1R4 28Q 1R5 1Nk 1R6 1L7 1R7 1L3 1R8 1M0 1R9\nO 9I C ^ o 1 1NE ~bb\nO 9I C ^ o 1 2 ~59\nO 9I C ^\nO 9I C ^\nO 9I C ^\nO 6l D ^\nO 6l D ^\nO 7c C b S 1R0 o 1 1LQ ~7d\nO 6R C d D ^\nO 6R C d D ^\nO 6R C d D ^\nO 6G C d D ^ o 1 1L4 ~7d\nO 6G C d D ^ o 1 1L4 ~7d\nO kA a 2 11W ~59 NL ~59\nO 8N a a 11W ~59 1M1 ~1B5 1M2 ~7d 1M3 ~7d 1M4 ~7d 1M5 ~8O 1M6 ~8P 1M7 ~7d 27i 3O 1M8 ~8P o 1 1M9 ~7d\nT 5k P = 1hE 1 1Db 3 1Ri 1Db 5l C o 3O a 7 1LQ ~59 2 ~59 1L2 1Rj 287 1Rk 28Q 1Rl 1L3 1Rm 1M0 1Rn\nO 9I C ^ o 1 1NE ~bb\nO 9I C ^\nO 9I C ^\nO 6l D ^\nO 6l D ^\nO kA a 2 11W ~59 NL ~59\nO 8N a a 11W ~59 1M1 ~1B5 1M2 ~7d 1M3 ~7d 1M4 ~7d 1M5 ~8O 1M6 ~8P 1M7 ~7d 27i 3N 1M8 ~8P o 1 1M9 ~7d\nO 9I C o 1N o 2 1NE ~bb 2 ~59\nO 9I C ^ o 2 1NE ~bb 2 ~59\nO 9I C ^ o 2 1NE ~bb 2 ~59\nO 7c C ^ S 2V\nT 5k P = 1hh 1 Ni 4 1Ru Ni LO 5l C ^ a p 1LQ ~59 eD 1Vd 13u 1Ve 13k 1Vf 1OX 1Vg 1OV 1Vh 1PU 1Vi 1OQ 1Vj 1P2 1Vk 1OP 1Vl 13D 1Vm 1P5 1Vn 1PV 1Vo 1PP 1Vp 1L7 1Vq 1P8 1Vr 1P9 1Vs 13o 1Vt 1OO 1Vu In 1Vv 1Yf ~bb 1L3 1Vw 1M0 1Vx 2 ~7d 1WA ~bb o 1 2 ~7d\nO 9I C ^ o 1 2 ~59\nO LF C q 1Ay - 4q a 7 1cB ~8P 1TQ ~59 1Wx SV 1On ~7d 1Wy ~bb 1WA ~bb 1ZN ~8P\nT 5k P = 1h9 1 5l 2 1Rx 5l C ^ a 6 1LQ ~59 1L2 1V9 10T 1Va 1L3 1Vb 1M0 1Vc 2 ~7d o 1 2 ~7d\nT 5k P = 1hL 1 1Db 3 1Ry 1Db 5l C ^ a b 1LQ ~59 2 ~59 1L2 1UX 1KY 1UY 2cd 1UZ 1Lf 1V0 2ce 1V1 287 1V2 28Q 1V3 1L3 1V4 1M0 1V5\nO LF C q 1Ay - 4q a 7 1cB ~8P 1TQ ~59 1Wx SV 1On ~7d 1Wy ~bb 1WA ~bb 1ZN ~8P\nO LK C q 1Ay - To a 8 1cB ~8P 1TQ ~7d 1Wx Ln 1On ~7d 1Wy ~bb 1WA ~bb 1ZN ~8P 1LQ ~59\nO LK C q 1Ay - To a 8 1cB ~8P 1TQ ~7d 1Wx Ln 1On ~7d 1Wy ~bb 1WA ~bb 1ZN ~8P 1LQ ~59\nT 5k P = 1iX 1 5l 2 1RC 5l C ^ a 4 1LQ ~59 1L3 1UV 1M0 1UW 2 ~7d o 1 2 ~7d\nT 5k P = 1j5 1 bb 3 1RD bb 5l C ^ a g 2 ~59 1On ~bb 1Xk ~bb 1Xl ~9J 1KX 1UL 1Xm 1UM 1Xn 1UN 1KY 1UO 1Xo 1UP 1LP 1UQ 1Xp ~bb 22V 1UR 2aU 1US 1LQ ~59 RL ~9J 1Yf ~bb\nT 5k P = 1j6 1 5l 2 1RE 5l C ^ a p 1LQ ~59 RL ~9J 2 ~59 288 ~7d 295 ~7d 294 ~8P 2aR ~7d 1gD ~7d 2aU ~7d 2cf 1Ux wg 1Uy 1NL 1Uz 2cg 1UA 2ch 1UB 2ci 1UC 2cj 1UD 1L3 1UE 1M0 1UF 29u ~1I5 29v ~9J 1L2 1UG 1KY 1UH 10L 1UI 1L5 ~7d 1Xp ~bb\nT LV P = 1j7 1 LW 4 1RF LW LO 5l C ^ a c 1LQ ~59 2 ~59 29g 1Ut 1L3 1Uu 1M0 1Uv 1WA ~bb 1Y6 ~8P 1MU 1Uw 1L2 LS 1MQ ~i2 1P3 ~i3 1Y7 ~8P\nT LV P = 1j8 1 LW 4 1RG LW LO 5l C ^ a c 1LQ ~59 2 ~59 287 1Up 1L3 1Uq 1M0 1Ur 1WA ~bb 1Y6 ~8P 1MU 1Us 1L2 LS 1MQ ~i2 1P3 ~i3 1Y7 ~8P\nO LI C q 1Ay - 5x a 8 1cB ~8P 1TQ ~7d 1Wx Ll 1On ~7d 1Wy ~bb 1WA ~bb 1ZN ~8P 1LQ ~59\nO LD C q 1Ay - 4g a 7 1cB ~8P 1TQ ~59 1Wx zP 1On ~7d 1Wy ~bb 1WA ~bb 1ZN ~8P\nO 1Q2 C t 2ck\nT 5k P = 1jc 1 8r 4 1RK 8r 8s 5l C ^ a 3 1LQ ~59 2 ~59 1M0 1Uo\nT 5k P = 1jd 1 5l 2 1RL 5l C ^ a 6 1LQ ~59 2 ~59 1L2 1Uk 287 1Ul 1L3 1Um 1M0 1Un\nT 5k P = 1je 1 5l 2 1RM 5l C ^ a 6 1LQ ~59 2 ~59 1L2 1Ug 287 1Uh 1L3 1Ui 1M0 1Uj\nT 5k P = 1jf 1 5l 2 1RN 5l C ^ a 8 1LQ ~59 2 ~59 1L2 1Ua 1P8 1Ub 1P9 1Uc 1NF 1Ud 1L3 1Ue 1M0 1Uf\nT 5k P = 1jg 1 5l 2 1RO 5l C ^ a 7 1LQ ~59 2 ~59 1L2 1U5 1P8 1U6 1P9 1U7 1L3 1U8 1M0 1U9\nT 5k P = 1jh 1 5l 2 1RP 5l C ^ a 7 1LQ ~59 2 ~59 1L2 1U0 1P8 1U1 1P9 1U2 1L3 1U3 1M0 1U4\nT 5k P = 1ji 1 5l 2 1RQ 5l C ^ a 8 1LQ ~59 2 ~59 1L2 1TU 1NL 1TV 1P8 1TW 1P9 1TX 1L3 1TY 1M0 1TZ\nT 5k P = 1jj 1 5l 2 1RR 5l C ^ a 8 1LQ ~59 2 ~59 1L2 1TN 2cl 1TO 28Q 1TP 287 1TQ 1L3 1TR 1M0 1TS\nO 9I C ^ o 2 1NE ~bb 2 ~59\nO 9I C ^ o 1 2 ~59\nT 5k P = 1jo 1 18i 3 1RU 18i 5l C ^ a c 1LQ ~59 RL ~9J 2 ~59 2cm ~5j 1L3 1TI 29u ~1I5 29v ~9J 1L2 1TJ 1KY 1TK 10L 1TL 1L5 ~7d 1Xp ~bb\nT hS P = 1jp 1 QU 3 1RV QU 5l C ^ a 7 1LQ ~59 2 ~59 2cn 1TF 1L3 1TG 1M0 1TH 1MQ ~i2 1P3 ~i3\nO 9I C ^\nO 9I C ^ o 1 2 ~59\nT 5k P = Tp 1 5l 2 1RY 5l C o 3N a 18 1LQ ~59 RL ~9J 2 ~59 2co 1S0 1L2 1S1 1KY 1S2 22x 1S3 2cp 1S4 2cq 1S5 2cr 1S6 2cs 1S7 2ct 1S8 2cu 1S9 2cv 1Sa 2cw 1Sb 2cx 1Sc 2cy 1Sd 1P8 1Se 1P9 1Sf 2cz 1Sg 2cA 1Sh 27X 1Si 27Y 1Sj 2cB 1Sk 2cC 1Sl 1SI 1Sm 2cD 1Sn 2cE 1So 2cF 1Sp 1Om 1Sq 22V 1Sr 2aU 1Ss 2c6 1St 2cG 1Su 1gE 1Sv 1Zx 1Sw 1Nj 1Sx 2cH 1Sy 2ca 1Sz 2cI 1SA 2cJ 1SB 2cK 1SC 1gN 1SD 1gu 1SE 1kf 1SF 2cL 1SG 2cM 1SH 2cN 1SI 2cO 1SJ 2cP 1SK 1gy 1SL 2cQ 1SM pt 1SN 1g8 1SO 2cR 1SP 2cS 1SQ 1zM 1SR 2cT 1SS sp 1ST 2cU 1SU 2cV 1SV pg 1SW 2cW 1SX 2cX 1SY 2cY 1SZ 2cZ 1T0 2d0 1T1 2d1 1T2 1L3 1T3 1M0 1T4\nO 9I C ^ o 1 2 ~59\nO 1To a 5 2d2 1Tp 2d3 1Tq 2d4 1Tp 2d5 1Tq 1UK ~9J\nO 9I C ^ o 1 1Nr ~9J\nO 9I C ^\nO 9F o 2 1Ns 1Tm 1Nt 1Tn\nO 9F o 1 1Ns 1Tl\nO 9F o 2 1Ns 1Tj 1Nt 1Tk\nO 9F o 1 1Ns 1Ti\nO 9I C ^ o 1 2 ~59\nO 9I C ^ o 1 2 ~59\nO 9I C ^ o 1 2 ~59\nO 9I C ^ o 1 2 ~59\nO 9I C ^ o 1 2 ~59\nO 9I C ^ o 1 2 ~59\nO 9I C ^ o 1 2 ~59\nO 9I C ^ o 1 2 ~59\nO 9I C ^ o 1 2 ~59\nO 9I C ^ o 1 2 ~59\nO 9I C ^ o 1 2 ~59\nO 9I C ^ o 2 2 ~59 1Nr ~9J\nO 9I C ^ o 1 2 ~59\nO 9I C ^ o 2 2 ~59 1Nr ~9J\nO 9F o 1 1Ns 1Th\nO 9F o 1 1Ns 1Tg\nO 9F o 1 1Ns 1Tf\nO 9F o 1 1Ns 1Te\nO 9F o 1 1Ns 1Td\nO 9F o 2 1Ns 1Tb 1Nt 1Tc\nO 9F o 2 1Ns 1T9 1Nt 1Ta\nO 9F o 2 1Ns 1T7 1Nt 1T8\nO 9I C ^ o 1 2 ~59\nO 9I C ^ o 1 2 ~59\nO 9I C ^ o 2 1NE ~bb 2 ~59\nO 9I C ^ o 2 1NE ~bb 2 ~59\nO 9I C ^ o 2 1NE ~bb 2 ~59\nO 9I C ^ o 2 2 ~59 1Nr ~9J\nO 9I C ^ o 2 1NE ~bb 2 ~59\nO 9I C ^ o 2 1NE ~bb 2 ~59\nO 9F o 1 1Ns 1T6\nO 9I C ^ o 1 2 ~59\nO 9I C ^ o 2 1NE ~bb 2 ~59\nO 9I C ^ o 2 2 ~59 1Nr ~9J\nO 9I C ^ o 2 1NE ~bb 2 ~59\nO 9I C ^ o 3 1NE ~bb 2 ~59 1Nr ~9J\nO 9I C ^ o 2 2 ~59 1Nr ~9J\nO 9I C ^ o 2 2 ~59 1Nr ~9J\nO 9I C ^ o 2 2 ~59 1Nr ~9J\nO 9I C ^ o 3 1NE ~bb 2 ~59 1Nr ~9J\nO 9I C ^ o 1 2 ~59\nO 9I C ^ o 2 2 ~59 1Nr ~9J\nO 9I C ^ o 2 2 ~59 1Nr ~9J\nO 9I C ^ o 3 1NE ~bb 2 ~59 1Nr ~9J\nO 9I C ^ o 2 2 ~59 1Nr ~9J\nO 9I C ^ o 2 1NE ~bb 2 ~59\nO 9I C ^ o 2 2 ~59 1Nr ~9J\nO bz C ^ F 1T5 a 5 1LQ ~59 1 ~59 1MO ~59 2 ~59 RL ~9J\nO 9I C ^ o 2 2 ~59 1Nr ~9J\nO 9I C ^ o 1 2 ~59\nO 9I C ^ o 1 2 ~59\nO 9I C ^ o 3 1NE ~bb 2 ~59 1Nr ~9J\nO 9I C ^ o 2 2 ~59 1Nr ~9J\nO 9I C ^ o 2 2 ~59 1Nr ~9J\nO 9I C ^ o 2 2 ~59 1Nr ~9J\nO 9I C ^ o 2 2 ~59 1Nr ~9J\nO 9I C ^ o 2 2 ~59 1Nr ~9J\nO 9I C ^ o 2 2 ~59 1Nr ~9J\nO 6l D ^\nO 6l D ^\nO 9I C q 1iv Tp 2cT o 2 1NE ~bb 2 ~59\nO 9I C q 1iv Tp 2cJ o 1 2 ~59\nO 9I C q 1iv Tp 2aU o 1 2 ~59\nO 9I C q 1iv Tp 2aU o 1 2 ~59\nO 9I C q 1iv Tp 22V o 1 2 ~59\nO 9I C q 1iv Tp 22V o 1 2 ~59\nO 9I C q 1iv Tp 1Om o 1 2 ~59\nO 9I C q 1iv Tp 1Om o 1 2 ~59\nO 9I C q 1iv Tp 2cF o 1 2 ~59\nO 9I C q 1iv Tp 2cE o 1 2 ~59\nO 9I C q 1iv Tp 2cD o 1 2 ~59\nO 9I C q 1iv Tp 1SI o 1 2 ~59\nO 9I C q 1iv Tp 2cC o 1 2 ~59\nO 9I C q 1iv Tp 2cr o 1 2 ~59\nO 9I C q 1iv Tp 2cq o 1 2 ~59\nO 9I C q 1iv Tp 2cq\nO 9I C q 1iv Tp 2cp o 1 2 ~59\nO 9I C q 1iv Tp 22x o 1 2 ~59\nO 9I C q 1iv Tp 22x o 1 2 ~59\nT hS P = 16E 1 zL 8 1To zL zM zN zO zP zQ 5l C ^ a i 1LQ ~59 1L2 1Tr 11d 1Ts 11e 1Tt 11c 1Tu 1L7 1Tv 1L9 1Tw 1KY 1Tx wg 1Ty 1NG 1Tz 11n 1TA 113 1TB 1Mk 1TC 1L3 1TD 1M0 1TE 2 ~7d 1MQ ~i2 1P3 ~i3\nO 9I C q os 2d6 31 o 1 1NB ~bb\nO 9I C q os 2d6 32 o 1 1NB ~bb\nO 9I C ^\nO 9I C ^\nO 9I C ^\nO 9I C ^\nO 9I C ^\nO 9I C ^\nO 9I C ^\nO 9I C ^\nO 9I C ^\nO 9I C ^\nO 9I C ^\nO 9I C ^\nO 6l D ^ I k ~9J\nO 6l D ^ I k ~7d\nO 9I C ^ a 1 1Nz ~8P o 1 2 ~59\nO 6l D ^\nO 6l D ^\nO 6l D ^\nO 9I C ^ o 2 1NB ~bb 1NE ~bb\nO 9I C ^ a 1 1NO 1TM o 1 1NB ~bb\nO 9I C ^\nO 9I C q 1iv 29P 1KY\nO 9I C ^ o 1 1Nr ~9J\nO 9F o 2 2 ~7d 1Ns 1TT\nO 9I C ^\nO 9I C ^\nO 6l D ^\nO 6l D ^\nO 9I C q 1iv 1jj 2cl\nO 9I C ^ o 1 1NE ~bb\nO 9I C ^ o 2 2 ~59 1Nr ~9J\nO 9I C ^\nO 9I C ^\nO 6l D ^\nO 6l D ^\nO 9I C ^ o 1 1NE ~bb\nO 9I C ^\nO 9I C ^\nO 6l D ^\nO 6l D ^\nO 9I C ^ o 1 1NE ~bb\nO 9I C ^\nO 9I C ^\nO 6l D ^\nO 6l D ^\nO 9I C ^\nO 9I C ^\nO 9I C ^\nO 9I C ^ o 1 2 ~59\nO 6l D ^\nO 6l D ^\nO 9I C ^\nO 9I C ^\nO 6l D ^\nO 6l D ^\nO 9I C ^ o 1 1NE ~bb\nO 9I C ^\nO 6l D ^\nO 6l D ^\nO 6l D ^\nO 9I C ^\nO 6l D ^\nO 6l D ^\nO 9I C q 1Ay 1Yt 1Yu o 1 1NB ~bb\nO 9I C ^\nO 6l D ^\nO 6l D ^\nO 9I C q 1Ay 1Yt 1Yu o 1 1NB ~bb\nO 9F o 1 1Ns 1UK\nO 9I C ^ o 1 2 ~59\nO 9I C ^ o 2 2 ~59 1Nr ~9J\nO 9I C ^ o 1 2 ~59\nO 9I C ^ o 1 2 ~59\nO 9I C ^ o 1 2 ~59\nO 9I C ^ o 1 2 ~59\nO 6l D ^\nO 6l D ^\nO 9I C ^ o 1 1NE ~bb\nO 9I C ^ a 1 1NO 1UJ o 1 1NB ~bb\nO 9I C ^\nO 9I C q 1iv 29P 1KY\nO 9I C q 1iv 1j6 2cf o 1 2 ~59\nO bz C t 1NP F 1UU\nO b0 F 1UT a 5 1LQ ~59 1 ~59 1MO ~59 2 ~7d RL ~9J\nO 9I C q tH 1j5 1Xn o 2 1NB ~bb 2 ~59\nO 9I C q tH 1j5 1KY o 2 1NB ~bb 2 ~59\nO 9I C q tH 1j5 1Xo o 2 1NB ~bb 2 ~59\nO 9I C q tH 1j5 1LP o 2 1NB ~bb 2 ~59\nO Jp\nO Jp\nO 9I C q tH 1j5 1Xm o 2 1NB ~bb 2 ~59\nO 9I C q 2d7 1j5 1KX o 2 1NE ~bb 2 ~59\nO 6l D ^ Z k ~9J\nO 6l D ^ Z k ~7d\nO 9I C ^ o 2 1NE ~bb 1Nr ~9J\nO 9I C ^\nO b0 F 1V8 a 5 1LQ ~59 1 ~59 1MO ~59 2 ~59 RL ~9J\nO b0 F 1V7 a 5 1LQ ~59 1 ~59 1MO ~59 2 ~59 RL ~9J\nO b0 F 1V6 a 5 1LQ ~59 1 ~59 1MO ~59 2 ~59 RL ~9J\nO 9I C ^\nO 9I C ^\nO 6l D ^\nO 6l D ^\nO 9I C q 1hD 1hL 2ce o 3 1NE ~bb 2 ~59 1Nr ~9J\nO 9I C q 1hD 1hL 1Lf o 3 1NE ~bb 2 ~59 1Nr ~9J\nO 9I C q 1hD 1hL 2cd o 3 1NE ~bb 2 ~59 1Nr ~9J\nO 9I C ^ o 1 1NE ~bb\nO 9I C ^ o 1 1NE ~bb\nO 6l D ^\nO 6l D ^\nO 9I C ^\nO 9I C ^\nO 9I C ^ o 1 1NE ~bb\nO 9I C ^\nO 9I C ^ o 1 1NE ~bb\nO 9I C ^ o 1 1NE ~bb\nO 9I C ^ o 1 1NE ~bb\nO 9I C ^\nO 9I C ^\nO 9I C ^ o 1 1NE ~bb\nO 9I C ^\nO 9I C ^\nO 9I C ^\nO 9I C ^\nO 9I C ^\nO 9I C ^\nO 9I C ^\nO 9I C ^\nO 9I C ^\nO 6l D ^ Z k ~9J\nO 6l D ^ Z k ~7d\nO kA a 2 11W ~59 NL ~59\nO 8N a a 11W ~59 1M1 ~1B5 1M2 ~7d 1M3 ~7d 1M4 ~7d 1M5 ~8O 1M6 ~8P 1M7 ~7d 27i 3M 1M8 ~8P o 1 1M9 ~7d\nO kA a 2 11W ~59 NL ~59\nO 8N a a 11W ~59 1M1 ~1B5 1M2 ~7d 1M3 ~7d 1M4 ~7d 1M5 ~8O 1M6 ~8P 1M7 ~7d 27i 3L 1M8 ~8P o 1 1M9 ~7d\nO 9I C ^\nO 1Gv a 1 29k ~8O o 1 1dk ! 1GO 1VD\nO 1Gv a 1 29k ~8O o 1 1dk ! 1GO 1VE\nO 1Gv a 1 29k ~8O o 1 1dk ! 1GO 1VF\nT Gz P = 1in 1 1qg 6 1VG 1qg 5j 1jm Fp 5l C ^ a j 1WD GA 1LQ ~59 2 ~59 1KY 1VI 1WF 5m 1WG ~8P 1WH ~8O 1WI ~9J 1WJ ~9J 1WK ~8O 1WL 5j 1WM 5n 1lh 1VJ 2a0 1VK 2a1 1VL 2a2 1VM 1il 1VN 1LM 6f 1KX GE\nO 9I C ^ o 1 2 ~59\nO 9I C ^\nO 1VG a 4 1Xa ~5j 1Xb ~59 1N1 1VG 1Xc ~5j\nO 1VG a 4 1Xa ~5j 1Xb ~59 1N1 1VG 1Xc ~5j\nO 1VG a 4 1Xa ~5j 1Xb ~59 1N1 1VG 1Xc ~5j\nO 1VG a 4 1Xa ~5j 1Xb ~59 1N1 1VG 1Xc ~5j\nO 1VG a 4 1Xa ~5j 1Xb ~59 1N1 1VG 1Xc ~5j\nO kA a 2 11W ~59 NL ~59\nO 8N a a 11W ~59 1M1 ~1B5 1M2 ~7d 1M3 ~7d 1M4 ~7d 1M5 ~8O 1M6 ~8P 1M7 ~7d 27i 3K 1M8 ~8P o 1 1M9 ~7d\nO IO C ^ a 7 1Xz 1VS 1LQ ~59 1 ~59 1MO ~59 2 ~59 RL ~9J 1NO 1VT\nO 9I C o 3K o 1 2 ~59\nO 9I C q vw 1XG 1XF o 1 1NB ~bb\nO 9I C q 1i9 - 1id o 1 2 ~59\nO kA a 2 11W ~59 NL ~59\nO 8N a a 11W ~59 1M1 ~1B5 1M2 ~7d 1M3 ~7d 1M4 ~7d 1M5 ~8O 1M6 ~8P 1M7 ~7d 27i 3J 1M8 ~8P o 1 1M9 ~7d\nO 1P2 a v 2bq ~59 oZ ~8P 2br ~59 2bs ~59 2bt ~59 2bu ~59 2bv ~59 2bw ~59 2bx ~59 2by ~59 2bz ~59 2bA ~59 2bB ~59 2bC ~59 2bD ~59 2bE ~59 2bF ~59 2bG ~59 2bH ~59 2bI ~59 2bJ ~59 2bK ~59 2bL ~59 2bM ~59 2bN ~59 2bO ~59 2bP ~59 2bQ ~59 2bR ~59 2bS ~59 2bT ~59\nO 1P2 a v 2bq ~59 oZ ~8P 2br ~59 2bs ~59 2bt ~59 2bu ~59 2bv ~59 2bw ~59 2bx ~59 2by ~59 2bz ~59 2bA ~59 2bB ~59 2bC ~59 2bD ~59 2bE ~59 2bF ~59 2bG ~59 2bH ~59 2bI ~59 2bJ ~59 2bK ~59 2bL ~59 2bM ~59 2bN ~59 2bO ~59 2bP ~59 2bQ ~59 2bR ~59 2bS ~59 2bT ~59\nO 1P2 a v 2bq ~59 oZ ~8P 2br ~59 2bs ~59 2bt ~59 2bu ~59 2bv ~59 2bw ~59 2bx ~59 2by ~59 2bz ~59 2bA ~59 2bB ~59 2bC ~59 2bD ~59 2bE ~59 2bF ~59 2bG ~59 2bH ~59 2bI ~59 2bJ ~59 2bK ~59 2bL ~59 2bM ~59 2bN ~59 2bO ~59 2bP ~59 2bQ ~59 2bR ~59 2bS ~59 2bT ~59\nO 1P2 a v 2bq ~59 oZ ~8P 2br ~59 2bs ~59 2bt ~59 2bu ~59 2bv ~59 2bw ~59 2bx ~59 2by ~59 2bz ~59 2bA ~59 2bB ~59 2bC ~59 2bD ~59 2bE ~59 2bF ~59 2bG ~59 2bH ~59 2bI ~59 2bJ ~59 2bK ~59 2bL ~59 2bM ~59 2bN ~59 2bO ~59 2bP ~59 2bQ ~59 2bR ~59 2bS ~59 2bT ~59\nO 1P2 a v 2bq ~59 oZ ~8P 2br ~59 2bs ~59 2bt ~59 2bu ~59 2bv ~59 2bw ~59 2bx ~59 2by ~59 2bz ~59 2bA ~59 2bB ~59 2bC ~59 2bD ~59 2bE ~59 2bF ~59 2bG ~59 2bH ~59 2bI ~59 2bJ ~59 2bK ~59 2bL ~59 2bM ~59 2bN ~59 2bO ~59 2bP ~59 2bQ ~59 2bR ~59 2bS ~59 2bT ~59\nO 1P2 a v 2bq ~59 oZ ~8P 2br ~59 2bs ~59 2bt ~59 2bu ~59 2bv ~59 2bw ~59 2bx ~59 2by ~59 2bz ~59 2bA ~59 2bB ~59 2bC ~59 2bD ~59 2bE ~59 2bF ~59 2bG ~59 2bH ~59 2bI ~59 2bJ ~59 2bK ~59 2bL ~59 2bM ~59 2bN ~59 2bO ~59 2bP ~59 2bQ ~59 2bR ~59 2bS ~59 2bT ~59\nO 1P2 a v 2bq ~59 oZ ~8P 2br ~59 2bs ~59 2bt ~59 2bu ~59 2bv ~59 2bw ~59 2bx ~59 2by ~59 2bz ~59 2bA ~59 2bB ~59 2bC ~59 2bD ~59 2bE ~59 2bF ~59 2bG ~59 2bH ~59 2bI ~59 2bJ ~59 2bK ~59 2bL ~59 2bM ~59 2bN ~59 2bO ~59 2bP ~59 2bQ ~59 2bR ~59 2bS ~59 2bT ~59\nO 1P2 a v 2bq ~59 oZ ~8P 2br ~59 2bs ~59 2bt ~59 2bu ~59 2bv ~59 2bw ~59 2bx ~59 2by ~59 2bz ~59 2bA ~59 2bB ~59 2bC ~59 2bD ~59 2bE ~59 2bF ~59 2bG ~59 2bH ~59 2bI ~59 2bJ ~59 2bK ~59 2bL ~59 2bM ~59 2bN ~59 2bO ~59 2bP ~59 2bQ ~59 2bR ~59 2bS ~59 2bT ~59\nO 1P2 a v 2bq ~59 oZ ~8P 2br ~59 2bs ~59 2bt ~59 2bu ~59 2bv ~59 2bw ~59 2bx ~59 2by ~59 2bz ~59 2bA ~59 2bB ~59 2bC ~59 2bD ~59 2bE ~59 2bF ~59 2bG ~59 2bH ~59 2bI ~59 2bJ ~59 2bK ~59 2bL ~59 2bM ~59 2bN ~59 2bO ~59 2bP ~59 2bQ ~59 2bR ~59 2bS ~59 2bT ~59\nO 1P2 a v 2bq ~59 oZ ~8P 2br ~59 2bs ~59 2bt ~59 2bu ~59 2bv ~59 2bw ~59 2bx ~59 2by ~59 2bz ~59 2bA ~59 2bB ~59 2bC ~59 2bD ~59 2bE ~59 2bF ~59 2bG ~59 2bH ~59 2bI ~59 2bJ ~59 2bK ~59 2bL ~59 2bM ~59 2bN ~59 2bO ~59 2bP ~59 2bQ ~59 2bR ~59 2bS ~59 2bT ~59\nO 1P2 a v 2bq ~59 oZ ~8P 2br ~59 2bs ~59 2bt ~59 2bu ~59 2bv ~59 2bw ~59 2bx ~59 2by ~59 2bz ~59 2bA ~59 2bB ~59 2bC ~59 2bD ~59 2bE ~59 2bF ~59 2bG ~59 2bH ~59 2bI ~59 2bJ ~59 2bK ~59 2bL ~59 2bM ~59 2bN ~59 2bO ~59 2bP ~59 2bQ ~59 2bR ~59 2bS ~59 2bT ~59\nO 1P2 a v 2bq ~59 oZ ~8P 2br ~59 2bs ~59 2bt ~59 2bu ~59 2bv ~59 2bw ~59 2bx ~59 2by ~59 2bz ~59 2bA ~59 2bB ~59 2bC ~59 2bD ~59 2bE ~59 2bF ~59 2bG ~59 2bH ~59 2bI ~59 2bJ ~59 2bK ~59 2bL ~59 2bM ~59 2bN ~59 2bO ~59 2bP ~59 2bQ ~59 2bR ~59 2bS ~59 2bT ~59\nO 1P2 a v 2bq ~59 oZ ~8P 2br ~59 2bs ~59 2bt ~59 2bu ~59 2bv ~59 2bw ~59 2bx ~59 2by ~59 2bz ~59 2bA ~59 2bB ~59 2bC ~59 2bD ~59 2bE ~59 2bF ~59 2bG ~59 2bH ~59 2bI ~59 2bJ ~59 2bK ~59 2bL ~59 2bM ~59 2bN ~59 2bO ~59 2bP ~59 2bQ ~59 2bR ~59 2bS ~59 2bT ~59\nO 1P2 a v 2bq ~59 oZ ~8P 2br ~59 2bs ~59 2bt ~59 2bu ~59 2bv ~59 2bw ~59 2bx ~59 2by ~59 2bz ~59 2bA ~59 2bB ~59 2bC ~59 2bD ~59 2bE ~59 2bF ~59 2bG ~59 2bH ~59 2bI ~59 2bJ ~59 2bK ~59 2bL ~59 2bM ~59 2bN ~59 2bO ~59 2bP ~59 2bQ ~59 2bR ~59 2bS ~59 2bT ~59\nO 1P2 a v 2bq ~59 oZ ~8P 2br ~59 2bs ~59 2bt ~59 2bu ~59 2bv ~59 2bw ~59 2bx ~59 2by ~59 2bz ~59 2bA ~59 2bB ~59 2bC ~59 2bD ~59 2bE ~59 2bF ~59 2bG ~59 2bH ~59 2bI ~59 2bJ ~59 2bK ~59 2bL ~59 2bM ~59 2bN ~59 2bO ~59 2bP ~59 2bQ ~59 2bR ~59 2bS ~59 2bT ~59\nO 1P2 a v 2bq ~59 oZ ~8P 2br ~59 2bs ~59 2bt ~59 2bu ~59 2bv ~59 2bw ~59 2bx ~59 2by ~59 2bz ~59 2bA ~59 2bB ~59 2bC ~59 2bD ~59 2bE ~59 2bF ~59 2bG ~59 2bH ~59 2bI ~59 2bJ ~59 2bK ~59 2bL ~59 2bM ~59 2bN ~59 2bO ~59 2bP ~59 2bQ ~59 2bR ~59 2bS ~59 2bT ~59\nO 1P2 a v 2bq ~59 oZ ~8P 2br ~59 2bs ~59 2bt ~59 2bu ~59 2bv ~59 2bw ~59 2bx ~59 2by ~59 2bz ~59 2bA ~59 2bB ~59 2bC ~59 2bD ~59 2bE ~59 2bF ~59 2bG ~59 2bH ~59 2bI ~59 2bJ ~59 2bK ~59 2bL ~59 2bM ~59 2bN ~59 2bO ~59 2bP ~59 2bQ ~59 2bR ~59 2bS ~59 2bT ~59\nO 1P2 a v 2bq ~59 oZ ~8P 2br ~59 2bs ~59 2bt ~59 2bu ~59 2bv ~59 2bw ~59 2bx ~59 2by ~59 2bz ~59 2bA ~59 2bB ~59 2bC ~59 2bD ~59 2bE ~59 2bF ~59 2bG ~59 2bH ~59 2bI ~59 2bJ ~59 2bK ~59 2bL ~59 2bM ~59 2bN ~59 2bO ~59 2bP ~59 2bQ ~59 2bR ~59 2bS ~59 2bT ~59\nO kA a 2 11W ~59 NL ~59\nO 8N a a 11W ~59 1M1 ~1B5 1M2 ~7d 1M3 ~7d 1M4 ~7d 1M5 ~8O 1M6 ~8P 1M7 ~7d 27i 3I 1M8 ~8P o 1 1M9 ~7d\nT 5k P 2d8 Rg 0 5l 2 1Wg 5l C o 2n a 9 1KX 1Wo 1KZ 1Wp 1L7 1Wq 1PP 1Wr 2d9 1Ws 1MS 1Wt 1N8 1Wu 1Nq 1Wv 2 ~59\nT 5k P = 1hM 1 1Db 3 1Wh 1Db 5l C ^ a 8 1LQ ~59 2 ~59 1L2 1Wi 1KY 1Wj 287 1Wk 28Q 1Wl 1L3 1Wm 1M0 1Wn\nO 9I C ^ o 1 1NE ~bb\nO 9I C ^\nO 9I C ^\nO 9I C ^\nO 6l D ^\nO 6l D ^\nO 7c C b S 1Wg o 1 1LQ ~7d\nO 6R C d D ^\nO 6R C d D ^\nO 6R C d D ^\nO 72 C d D ^ Y 7c o 1 1L4 ~59\nO 6G C d D ^ o 1 1L4 ~7d\nO 6G C d D ^ o 1 1L4 ~7d\nO 72 C d D ^ Y 7c\nO kA a 2 11W ~59 NL ~59\nO 8N a a 11W ~59 1M1 ~1B5 1M2 ~7d 1M3 ~7d 1M4 ~7d 1M5 ~8O 1M6 ~8P 1M7 ~7d 27i 3H 1M8 ~8P o 1 1M9 ~7d\nO kA a 2 11W ~59 NL ~59\nO 8N a a 11W ~59 1M1 ~1B5 1M2 ~7d 1M3 ~7d 1M4 ~7d 1M5 ~8O 1M6 ~8P 1M7 ~7d 27i 3G 1M8 ~8P o 1 1M9 ~7d\nO 9I C ^ o 1 2 ~59\nO kA a 2 11W ~59 NL ~59\nO 8N a a 11W ~59 1M1 ~1B5 1M2 ~7d 1M3 ~7d 1M4 ~7d 1M5 ~8O 1M6 ~8P 1M7 ~7d 27i 3F 1M8 ~8P o 1 1M9 ~7d\nT LV P = 1hr 1 LW 4 1WD LW LO 5l C ^ a e 1LQ ~59 RL ~9J 2 ~59 1Om ~7d 29s ~5j 2da ~5j 1L3 1WF 1M0 1WG 1WA ~bb 1Y6 ~8P 1MU 1WH 1L2 LS 1MQ ~i2 1P3 ~i3\nO 9I C ^ o 1 2 ~59\nO 6l D ^\nO 6l D ^\nO 9I C q 1Ay 1Yt 1Yu o 1 1NB ~bb\nO kA a 2 11W ~59 NL ~59\nO 8N a a 11W ~59 1M1 ~1B5 1M2 ~7d 1M3 ~7d 1M4 ~7d 1M5 ~8O 1M6 ~8P 1M7 ~7d 27i 3E 1M8 ~8P o 1 1M9 ~7d\nO kA a 2 11W ~59 NL ~59\nO 8N a a 11W ~59 1M1 ~1B5 1M2 ~7d 1M3 ~7d 1M4 ~7d 1M5 ~8O 1M6 ~8P 1M7 ~7d 27i 3D 1M8 ~8P o 1 1M9 ~7d\nO kA a 2 11W ~59 NL ~59\nO 8N a a 11W ~59 1M1 ~1B5 1M2 ~7d 1M3 ~7d 1M4 ~7d 1M5 ~8O 1M6 ~8P 1M7 ~7d 27i 3C 1M8 ~8P o 1 1M9 ~7d\nO kA a 2 11W ~59 NL ~59\nO 8N a a 11W ~59 1M1 ~1B5 1M2 ~7d 1M3 ~7d 1M4 ~7d 1M5 ~8O 1M6 ~8P 1M7 ~7d 27i 3B 1M8 ~8P o 1 1M9 ~7d\nO Lw a 6 1 ~59 1Y9 ~8P 1Ya ~8P 1Yb ~7d 1Yc ~bb 1LQ ~59\nO 9I C ^ o 1 2 ~59\nO kA a 2 11W ~59 NL ~59\nO 8N a a 11W ~59 1M1 ~1B5 1M2 ~7d 1M3 ~7d 1M4 ~7d 1M5 ~8O 1M6 ~8P 1M7 ~7d 27i 3A 1M8 ~8P o 1 1M9 ~7d\nO kA a 2 11W ~59 NL ~59\nO 8N a a 11W ~59 1M1 ~1B5 1M2 ~7d 1M3 ~7d 1M4 ~7d 1M5 ~8O 1M6 ~8P 1M7 ~7d 27i 3z 1M8 ~8P o 1 1M9 ~7d\nO kA a 2 11W ~59 NL ~59\nO 8N a a 11W ~59 1M1 ~1B5 1M2 ~7d 1M3 ~7d 1M4 ~7d 1M5 ~8O 1M6 ~8P 1M7 ~7d 27i 3y 1M8 ~8P o 1 1M9 ~7d\nO 9I C o 3y\nO kA a 2 11W ~59 NL ~59\nO 8N a a 11W ~59 1M1 ~1B5 1M2 ~7d 1M3 ~7d 1M4 ~7d 1M5 ~8O 1M6 ~8P 1M7 ~7d 27i 3x 1M8 ~8P o 1 1M9 ~7d\nO kA a 2 11W ~59 NL ~59\nO 8N a a 11W ~59 1M1 ~1B5 1M2 ~7d 1M3 ~7d 1M4 ~7d 1M5 ~8O 1M6 ~8P 1M7 ~7d 27i 3w 1M8 ~8P o 1 1M9 ~7d\nO kA a 2 11W ~59 NL ~59\nO 8N a a 11W ~59 1M1 ~1B5 1M2 ~7d 1M3 ~7d 1M4 ~7d 1M5 ~8O 1M6 ~8P 1M7 ~7d 27i 3v 1M8 ~8P o 1 1M9 ~7d\nO kA a 2 11W ~59 NL ~59\nO 8N a a 11W ~59 1M1 ~1B5 1M2 ~7d 1M3 ~7d 1M4 ~7d 1M5 ~8O 1M6 ~8P 1M7 ~7d 27i 3u 1M8 ~8P o 1 1M9 ~7d\nO kA a 2 11W ~59 NL ~59\nO 8N a a 11W ~59 1M1 ~1B5 1M2 ~7d 1M3 ~7d 1M4 ~7d 1M5 ~8O 1M6 ~8P 1M7 ~7d 27i 3t 1M8 ~8P o 1 1M9 ~7d\nO 9I C ^ o 1 2 ~59\nO 9I C ^ o 2 2 ~59 1Nr ~9J\nO 9I C ^ o 3 1NE ~bb 2 ~59 1Nr ~9J\nO 9I C ^ o 2 2 ~59 1Nr ~9J\nO kA a 2 11W ~59 NL ~59\nO 8N a 9 11W ~59 1M1 1Xd 1M2 ~59 1M3 ~7d 1M4 ~7d 1M5 ~8O 1M6 ~8P 1M7 ~59 1M8 ~8P\nO 9I C o 3s o 2 1NE ~bb 2 ~59\nT 5k P = 1fY 1 5l 2 1Xg 5l C ^ a i 1LQ ~59 1L2 1Xl pu 1Xk 2db 1Xm 2dc 1Xn 2dd 1Xo 2de 1Xp 2df 1Xq 2dg 1Xr 2dh 1Xs 2di 1Xt 2dj 1Xu 2dk 1Xv 2dl 1Xw 2dm 1Xx 1L3 1Xy 1M0 1Xz 2 ~7d o 1 2 ~7d\nO 9I C ^\nO 1Xg a c 2dn ~59 2do ~5j 2dp ~5j 2dq ~5j 2dr ~5j 2ds ~5j 2dt ~5j 2du ~5j 2dv ~5j 2dw ~5j 2dx ~5j 2dy ~5j\nO WO C q 1fX 1fY pu F 1Xk S 1Xi o 1 2 ~7d\nO 9I C ^\nO 9I C ^\nO 9I C ^\nO 9I C ^ o 1 1NE ~bb\nO 9I C ^\nO 9I C ^\nO 9I C ^\nO 9I C ^\nO 9I C ^\nO 9I C ^\nO 9I C ^\nO 9I C ^\nO 9I C ^\nO 9I C ^\nO 6l D ^ I k ~9J\nO 6l D ^ I k ~7d\nO kA a 2 11W ~59 NL ~59\nO 8N a 9 11W ~59 1M1 1XA 1M2 ~59 1M3 ~7d 1M4 ~7d 1M5 ~8O 1M6 ~8P 1M7 ~59 1M8 ~8P\nO 1ZD a 1 11W ~59\nT 5k P = eX 1 8r 4 1XD 8r 8s 5l C ^ a 4 1LQ ~59 2 ~59 1L2 1ZI 1M0 1ZJ\nO 1ZD a 1 11W ~59\nO 1ZD a 1 11W ~59\nO 1ZD a 1 11W ~59\nO 1ZD a 1 11W ~59\nO 1ZD a 1 11W ~59\nO 1ZD a 1 11W ~59\nO 1ZD a 1 11W ~59\nO 1ZD a 1 11W ~59\nO 1ZD a 1 11W ~59\nO 1ZD a 1 11W ~59\nO 1ZD a 1 11W ~59\nO 1ZD a 1 11W ~59\nO 1ZD a 1 11W ~59\nO 1ZD a 1 11W ~59\nO 1ZD a 1 11W ~59\nO 1ZD a 1 11W ~59\nO 1ZD a 1 11W ~59\nO 1ZD a 1 11W ~59\nO 1ZD a 1 11W ~59\nO 1ZD a 1 11W ~59\nO 1ZD a 1 11W ~59\nO 1ZD a 1 11W ~59\nO 1ZD a 1 11W ~59\nO 1ZD a 1 11W ~59\nO 1ZD a 1 11W ~59\nO 1ZD a 1 11W ~59\nO 1ZD a 1 11W ~59\nO 1ZD a 1 11W ~59\nO 1ZD a 1 11W ~59\nO 1ZD a 1 11W ~59\nO 1ZD a 1 11W ~59\nO 1ZD a 1 11W ~59\nO 1ZD a 1 11W ~59\nO 1ZD a 1 11W ~59\nO 1ZD a 1 11W ~59\nO 1ZD a 1 11W ~59\nO 1ZD a 1 11W ~59\nO 1ZD a 1 11W ~59\nO 1ZD a 1 11W ~59\nO 1ZD a 1 11W ~59\nO 1ZD a 1 11W ~59\nO 1ZD a 1 11W ~59\nO 1ZD a 1 11W ~59\nO 1ZD a 1 11W ~59\nO 1ZD a 1 11W ~59\nO 1ZD a 1 11W ~59\nO 1ZD a 1 11W ~59\nO 1ZD a 1 11W ~59\nO 1ZD a 1 11W ~59\nO 1ZD a 1 11W ~59\nO 1ZD a 1 11W ~59\nO 1ZD a 1 11W ~59\nO 1ZD a 1 11W ~59\nO 1ZD a 1 11W ~59\nO 1ZD a 1 11W ~59\nO 1ZD a 1 11W ~59\nO 1ZD a 1 11W ~59\nO 1ZD a 1 11W ~59\nO 1ZD a 1 11W ~59\nO 1ZD a 1 11W ~59\nO 1ZD a 1 11W ~59\nO 1ZD a 1 11W ~59\nO 1ZD a 1 11W ~59\nO 1ZD a 1 11W ~59\nO 1ZD a 1 11W ~59\nO 1ZD a 1 11W ~59\nO 1ZD a 1 11W ~59\nO 1ZD a 1 11W ~59\nO 1ZD a 1 11W ~59\nO 1ZD a 1 11W ~59\nO 1ZD a 1 11W ~59\nO 1ZD a 1 11W ~59\nO 1ZD a 1 11W ~59\nO 1ZD a 1 11W ~59\nO 1ZD a 1 11W ~59\nT 5k P = 1fM 1 5l 2 1YR 5l C ^ a a 1LQ ~59 1L2 1Zu 1RH 1Zv 2dz 1Zw 2dA 1Zx 2dB 1Zy 2dC 1Zz 1L3 1ZA 1M0 1ZB 2 ~7d o 1 2 ~7d\nT 5k P = 1fN 1 5l 2 1YS 5l C ^ a e 1LQ ~59 1L2 1Zi d0 1Zj 1KY 1Zk 1L9 1Zl 11c 1Zm 11d 1Zn 11e 1Zo 1Nl 1Zp 1Nk 1Zq 2dD 1Zr 1L3 1Zs 1M0 1Zt 2 ~7d o 1 2 ~7d\nT 5k P = 1fO 1 5l 2 1YT 5l C ^ a f 1LQ ~59 1L2 1Z4 2dE 1Z5 1dk 1Z6 1NF 1Z7 2dF 1Z8 2dG 1Z9 ck 1Za 1OP 1Zb 1OQ 1Zc eX 1Zd 2dH 1Ze 1L3 1Zf 1M0 1Zg 2 ~7d o 1 2 ~7d\nO 9I C ^\nO 9I C ^\nO 9I C ^\nO 9I C ^\nO 9I C ^ o 1 1NE ~bb\nO 9I C ^\nO 9I C ^\nO 9I C ^ o 1 1NE ~bb\nO 9I C ^\nO 9I C ^\nO 9I C ^\nO 9I C q 1fy 1fO 2dI\nO 9I C ^\nO 9I C ^\nO 9I C ^\nO 9I C ^\nO 9F o 2 2 ~7d 1Ns 1Zh\nO 9I C ^\nO 9I C ^\nO 9I C ^ o 1 1NE ~bb\nO 9I C ^\nO 6l D ^\nO 6l D ^\nO 9I C q 1fy 1fO ck\nO 9I C ^ o 1 1NE ~bb\nO 9I C ^ o 1 1NE ~bb\nO 9I C ^\nO 9I C ^\nO 9I C ^\nO 9I C ^\nO 9I C ^\nO 9I C ^\nO 9I C ^\nO 9I C ^\nO 6l D ^\nO 6l D ^\nO 9I C ^\nO 9F o 2 2 ~7d 1Ns 1ZC\nO 9I C ^ o 1 1NE ~bb\nO 9I C ^\nO 9I C ^\nO 9I C ^\nO 6l D ^\nO 6l D ^\nO 9I C q 1fy 1fM 1RH\nT 5k P = 1fw 1 5j 3 1ZD 5j 5l C ^ a 6 1LQ ~59 1KX 1ZE 1KY 1ZF 1MS ~7d 1L3 1ZG 2 ~7d o 1 2 ~7d\nO bz C t 1NP F 1ZH\nO 9I C ^\nO 6l D ^ I k ~9J\nO 9I C q 1fv 1fw 1KX o 1 1NB ~bb\nO 9I C q 1fv eX 1L2 o 2 1NB ~bb 1NE ~bb\nO 6l D ^\nO kA a 2 11W ~59 NL ~59\nO 8N a 9 11W ~59 1M1 1ZK 1M2 ~59 1M3 ~7d 1M4 ~7d 1M5 ~8O 1M6 ~8P 1M7 ~59 1M8 ~8P\nO 9I C ^\nO kA a 2 11W ~59 NL ~59\nO 8N a 9 11W ~59 1M1 1ZN 1M2 ~59 1M3 ~7d 1M4 ~7d 1M5 ~8O 1M6 ~8P 1M7 ~59 1M8 ~8P\nO 9I C ^ o 1 1NE ~bb\nO 9I C ^\nO 9I C ^\nO 9I C ^ o 1 1NE ~bb\nO 9I C ^ o 1 1NE ~bb\nO 9I C ^\nO 9I C ^\nO 9I C ^ o 1 2 ~59\nO 9I C ^\nO 9I C ^\nO 9I C ^\nO 9I C ^\nO 9I C ^\nO 9I C ^\nO 9I C ^\nO 9I C ^\nO 9I C ^ o 1 1NE ~bb\nO kA a 2 11W ~59 NL ~59\nO 8N a 9 11W ~59 1M1 206 1M2 ~59 1M3 ~7d 1M4 ~7d 1M5 ~8O 1M6 ~8P 1M7 ~59 1M8 ~8P\nO kA a 2 11W ~59 NL ~59\nO 8N a 9 11W ~59 1M1 208 1M2 ~59 1M3 ~7d 1M4 ~8O 1M5 ~8O 1M6 ~8P 1M7 ~59 1M8 ~8P\nO 9I C ^ o 2 1NE ~bb 2 ~59\nO 9I C ^ o 2 1NE ~bb 2 ~59\nO 9I C ^ o 2 1NE ~bb 2 ~59\nO 9I C ^ o 2 1NE ~bb 2 ~59\nO 9I C ^ o 2 1NE ~bb 2 ~59\nO 9I C ^ o 2 1NE ~bb 2 ~59\nO 9I C ^ o 2 1NE ~bb 2 ~59\nO 9I C ^ o 2 1NE ~bb 2 ~59\nO 9I C ^ o 2 1NE ~bb 2 ~59\nO 9I C ^ o 1 2 ~59\nO 9I C ^ o 2 1NE ~bb 2 ~59\nO 9I C ^ o 1 2 ~59\nO 9I C ^\nO IO C ^ a 7 1Xz 20w 1LQ ~59 1 ~59 1MO ~59 2 ~7d RL ~9J 1NO 20x\nO 9I C ^\nO 9I C ^\nO 9I C ^\nT 5k P = 1dy 1 5l 2 20r 5l C ^ a 6 1LQ ~59 1L2 20s 2dJ 20t 1L3 20u 1M0 20v 2 ~7d o 1 2 ~7d\nO 9I C ^ o 1 1NE ~bb\nO 9I C ^\nO 6l D ^\nO 6l D ^\nO 9I C q vw 1XG 1XF o 1 1NB ~bb\nO 9I C q nF - 1dv\nO kA a 2 11W ~59 NL ~59\nO 8N a 9 11W ~59 1M1 20y 1M2 ~59 1M3 ~7d 1M4 ~7d 1M5 ~8O 1M6 ~8P 1M7 ~59 1M8 ~8P\nO 7c C ^ S 2V\nO 7c C ^ S 2V\nO 7c C ^ S 2V\nO 7c C ^ S 2V\nO 7c C ^ S 2V\nO 7c C o 3f S 3f\nO 7c C ^ S u\nT 5k P 2dK R9 0 5l 2 20H 5l C ^ a 7 1KX 217 1KZ 218 1L7 219 1PP 21a 1MS 21b 1N8 21c 2 ~59 o 1 1L4 ~59\nO 7c C ^ S z\nO WO C q Di dg 1cC F 1e5 S 1JO\nO 7c C b S 1JO o 1 1LQ ~7d\nO WO C q Di dg 1cD F 1el S 1JO\nO WO C q Di dg 1cE F 1em S 1JO\nO WO C q Di dg 1cG F 1eh S 1JO\nO WO C q Di dg 1cH F 1ef S 1JO\nO WO C q Di dg 1cI F 1ej S 1JO\nO WO C q Di dg 1cJ F 1ei S 1JO\nO WO C q Di dg 1cK F 1ek S 1JO\nO WO C q Di dg 1cL F 1en S 1JO\nO WO C q Di dg 1cM F 1ep S 1JO\nO WO C q Di dg 1cN F 1eq S 1JO\nO WO C q Di dg 1cO F 1er S 1JO\nO WO C q Di dg 1cP F 1es S 1JO\nO WO C q Di dg 1cQ F 1eo S 1JO\nO WO C q Di dg 1cR F 1et S 1JO\nO WO C q Di dg 1cS F 1eu S 1JO\nO WO C q Di dg 1cT F 1ev S 1JO\nO WO C q Di dg 1cU F 1e6 S 1JO\nO WO C q Di dg 1cV F 1e7 S 1JO\nO 7c C b S 1JO o 1 1LQ ~7d\nO WO C q Di dg 1cX F 1ee S 1JO\nO 9I C ^\nO 9I C ^ o 1 1NE ~bb\nO 7c C b S 20H o 1 1LQ ~7d\nO 6R C d D ^\nO 6R C d D ^\nO 6R C d D ^\nO 6G C d D ^ o 1 1L4 ~7d\nO 6G C d D ^ o 1 1L4 ~7d\nO kA a 2 11W ~59 NL ~59\nO 8N a 9 11W ~59 1M1 21d 1M2 ~59 1M3 ~7d 1M4 ~7d 1M5 ~8O 1M6 ~8P 1M7 ~59 1M8 ~8P\nO 7c C ^ S V\nO 7c C ^ S V\nO 9I C ^ o 1 2 ~59\nO 9I C ^ o 1 2 ~59\nO 9I C ^ o 2 1NE ~bb 2 ~59\nO 9I C o 3l o 1 1NE ~bb\nO 9I C ^ o 2 1NE ~bb 2 ~59\nO 9I C ^ o 1 1NE ~bb\nO 9I C ^ o 1 2 ~59\nO 9I C ^ o 1 2 ~59\nO 9I C ^\nO kA a 2 11W ~59 NL ~59\nO 8N a 9 11W ~59 1M1 21q 1M2 ~59 1M3 ~7d 1M4 ~7d 1M5 ~8O 1M6 ~8P 1M7 ~59 1M8 ~8P\nO 7c C ^ S l\nO 7c C ^ S l\nT 5k P 2dL de 1 5l 2 21u 5l C ^ a a 1KX 22c 27g 22d 1NF 22e 2dM 22f 2dN 22g 2dO 22h 2dP 22i 1Nq 22j 2 ~59 1LQ ~59 o 1 1L4 ~59\nT 5k P = dd 1 8r 4 21v 8r 8s 5l C ^ a 3 2 ~59 1LQ ~59 1M0 22b\nT 5k P = Zi 1 8r 4 21w 8r 8s 5l C o 3k a 3 1LQ ~59 2 ~59 1M0 22a\nT 5k P = uX 1 5l 2 21x 5l C ^ a j 1LQ ~59 2 ~59 1L2 21T 2dQ 21U 10i 21V 2dP 21W 27g 21X 2dR 21Y 2dN 21Z 1NF 220 2dO 221 2dM 222 1ON 223 2dS 224 2dT 225 2dU 226 1Nq 227 1L3 228 1M0 229\nT 5k P = 1c4 1 21x 3 21y 21x 5l C ^ a 6 1LQ ~59 2 ~59 1ON 21P 2dS 21Q 2dT 21R 2dU 21S\nT 5k P = 1c5 1 21x 3 21z 21x 5l C ^ a 6 1LQ ~59 2 ~59 1ON 21L 2dS 21M 2dT 21N 2dU 21O\nT 5k P = 1c6 1 5l 2 21A 5l C ^ a c 1LQ ~59 2 ~59 1L2 21B 2dN 21C 1NF 21D 2dO 21E 2dM 21F 27g 21G 2dP 21H 1Nq 21I 1L3 21J 1M0 21K\nO 9I C ^\nO 9I C ^ o 2 1NE ~bb 2 ~59\nO 9I C ^ o 2 1NE ~bb 2 ~59\nO 9I C ^ o 1 2 ~59\nO 9I C ^ o 1 2 ~59\nO 9I C ^ o 1 2 ~59\nO 9I C ^ o 1 2 ~59\nO b0 F Aj a 4 1LQ ~59 1 ~59 1MO ~59 2 ~59\nO 6l D ^\nO 6l D ^\nO 9I C ^\nO 9I C ^\nO 9I C ^\nO 9I C ^\nO 9I C ^\nO 9I C ^\nO 9I C ^\nO 9I C ^\nO 9I C ^ o 1 1NE ~bb\nO 9I C ^ o 1 2 ~59\nO 9I C ^ o 1 2 ~59\nO 9I C ^ o 1 2 ~59\nO 9I C ^ o 1 2 ~59\nO 9I C ^ o 1 2 ~59\nO 9I C ^ o 2 1NE ~bb 2 ~59\nO 9I C ^ o 2 1NE ~bb 2 ~59\nO 9I C ^ o 1 2 ~59\nO 9I C ^ o 1 2 ~59\nO 9I C ^\nO 9I C ^\nO 9I C ^\nO 9I C ^\nO b0 F Aj a 4 1LQ ~59 1 ~59 1MO ~59 2 ~59\nO 6l D ^\nO 6l D ^\nO 6l D ^\nO 6l D ^\nO 7c C b S 21u o 1 1LQ ~7d\nO 6G C d D ^\nO 6G C d D ^\nO 6G C d D ^\nO 6G C d D ^\nO 6G C d D ^\nO 6G C d D ^\nO 72 C d D ^ Y 7c\nO 8N a 9 11W ~59 1M1 5a 1M2 ~59 1M3 ~7d 1M4 ~7d 1M5 ~8O 1M6 ~8P 1M7 ~7d 1M8 ~8P o 1 1M9 ~7d\nO 7c C ^ S 3h\nO 7c C ^ S 3h\nT 5k P = 1aY 1 8r 4 22n 8r 8s 5l C q 2dV - 1aY a 3 1LQ ~59 1M0 239 2 ~7d o 1 2 ~7d\nT 5k P 2dW 2dX 1 5l 2 22o 5l C q 1aV - 2dX a M 2dY 22p 2dZ 22q 2e0 22r 2e1 22s 2e2 22t 2e3 22u 2e4 22v 2e5 22w 2e6 22x 2e7 22y 1qa 22z 2e8 22A 2e9 22B 2ea 22C 2eb 22D 2ec 22E 2ed 22F 2ee 22G 2ef 22H 2eg 22I 2eh 22J 2ei 22K 2ej 22L 2ek 22M 2 ~59 1LQ ~59 2el 22N 2em 22O 2en 22P 2eo 22Q 2ep 22R 2eq 22S 2er 22T 2es 22U 2et 22V 2eu 22W 2ev 22X 2ew 22Y 2ex 22Z 2ey 230 2ez 231 2eA 232 2eB 233 2eC 234 2eD 235 2eE 236 2eF 237 2eG 238\nO 6G C d D ^\nO 6G C d D ^\nO 6G C d D ^\nO 6G C d D ^\nO 6G C d D ^\nO 6G C d D ^\nO 6G C d D ^\nO 6G C d D ^\nO 6G C d D ^\nO 6G C d D ^\nO 6v D ^\nO 6l D ^ o 1 2 ~7d\nO 6l D ^ o 1 2 ~7d\nO 6l D ^ o 1 2 ~7d\nO 6l D ^ o 1 2 ~7d\nO 6l D ^ o 1 2 ~7d\nO 6l D ^ o 1 2 ~7d\nO 6l D ^ o 1 2 ~7d\nO 6l D ^ o 1 2 ~7d\nO 6l D ^ o 1 2 ~7d\nO 6l D ^ o 1 2 ~7d\nO 6l D ^ o 1 2 ~7d\nO 6l D ^ o 1 2 ~7d\nO 6l D ^ o 1 2 ~7d\nO 6l D ^ o 1 2 ~7d\nO 6l D ^ o 1 2 ~7d\nO 6l D ^ o 1 2 ~7d\nO 6l D ^ o 1 2 ~7d\nO 6l D ^ o 1 2 ~7d\nO 6l D ^ o 1 2 ~7d\nO 6l D ^ o 1 2 ~7d\nO 6l D ^ o 1 2 ~7d\nO 6l D ^ o 1 2 ~7d\nO 6l D ^ o 1 2 ~7d\nO 6l D ^ o 1 2 ~7d\nO 6l D ^ o 1 2 ~7d\nO 6l D ^ o 1 2 ~7d\nO 6l D ^ o 1 2 ~7d\nO 6l D ^ o 1 2 ~7d\nO 6l D ^ o 1 2 ~7d\nO 6l D ^ o 1 2 ~7d\nO 6l D ^ o 1 2 ~7d\nO 6l D ^ o 1 2 ~7d\nO 6l D ^ o 1 2 ~7d\nO 6l D ^ o 1 2 ~7d\nO 6l D ^ o 1 2 ~7d\nO 6l D ^\nO kA a 2 11W ~59 NL ~59\nO 8N a 9 11W ~59 1M1 23a 1M2 ~59 1M3 ~7d 1M4 ~7d 1M5 ~8O 1M6 ~8P 1M7 ~59 1M8 ~8P\nO 9I C ^ o 3 1NE ~bb 2 ~59 1Nr ~9J\nO 9I C ^ o 3 1NE ~bb 2 ~59 1Nr ~9J\nO 9I C ^ o 2 2 ~59 1Nr ~9J\nO 9I C ^ o 1 2 ~59\nO 9I C ^ o 1 2 ~59\nO 9I C ^ o 1 2 ~59\nT 5k P = 1aO 1 5l 2 23i 5l C ^ a 6 1LQ ~59 2 ~59 1On ~8O 1L2 23U 10J 23V 2eH 23W\nO 9I C ^ o 1 2 ~59\nT 5k P = 1aQ 1 5l 2 23k 5l C ^ a z 1LQ ~59 1L2 23o 1aG 23p 1aJ 23q 1aN 23r 1aM 23s Up 23t 2eI 23u 2eJ ~9J 2eK 23v 2eL 23w 2eM 23x 2eN 23y 2eO 23z 2eP 23A 2eQ 23B 2eR 23C 2eS 23D 2eT 23E 2eU 23F 2eV 23G 2eW 23H 11v 23I p9 23J 2eX 23K 2eY 23L 2eZ 23M 2f0 23N 2f1 23O 2f2 23P 2f3 23Q 2f4 23R 1L3 23S 1M0 23T 2 ~7d o 1 2 ~7d\nO 9I C ^\nO 9I C ^ o 1 1NE ~bb\nO 9I C ^\nO 9I C ^ o 3 1NE ~bb 2 ~59 1Nr ~9J\nO 9I C ^\nO 9I C ^\nO 9I C ^\nO 9I C ^\nO 9I C ^\nO 9I C ^\nO 9I C ^\nO 9I C ^\nO 9I C ^\nO 9I C ^\nO 9I C ^\nO 9I C ^\nO 9I C ^\nO 9I C ^\nO 9I C ^\nO 9I C ^\nO 9I C ^\nO 9I C ^\nO 9I C ^\nO 9I C ^\nO 9I C ^ o 1 2 ~59\nO 9I C ^\nO 9I C ^\nO 9I C ^\nO 9I C ^\nO 9I C ^\nO 9I C ^\nO 9I C ^\nO 9I C ^\nO 6l D ^\nO 6l D ^\nO 9I C ^\nO 9I C ^\nO 6v D ^\nO 8N a 9 11W ~59 1M1 5a 1M2 ~59 1M3 ~7d 1M4 ~7d 1M5 ~8O 1M6 ~8P 1M7 ~7d 1M8 ~8P o 1 1M9 ~7d\nO 7c C o 3f S 3f\nO 7c C o 3f S 3f\nO 7c C o 3f S 3f\nO 7c C o 3f S 3f\nO 7c C o 3f S 3f\nO 7c C o 3f S 3f\nO 7c C o 3f S 3f\nO 7c C o 3f S 3f\nO 7c C o 3f S 3f\nO 7c C o 3f S 3f\nO 7c C o 3f S 3f\nO 7c C o 3f S 3f\nO 7c C o 3f S 3f\nO 7c C o 3f S 3f\nO 7c C o 3f S 3f\nO 7c C o 3f S 3f\nO 7c C o 3f S 3f\nO 7c C o 3f S 3f\nO 7c C o 3f S 3f\nO 7c C o 3f S 3f\nO 7c C o 3f S 3f\nO 7c C o 3f S 3f\nO 7c C o 3f S 3f\nO 7c C o 3f S 3f\nO 7c C o 3f S 3f\nO 7c C o 3f S 3f\nO 7c C o 3f S 3f\nO 7c C o 3f S 3f\nO 7c C o 3f S 3f\nO 7c C o 3f S 3f\nO 7c C o 3f S 3f\nO 7c C o 3f S 3f\nO 7c C o 3f S 3f\nO 7c C o 3f S 3f\nO 7c C o 3f S 3f\nO 7c C o 3f S 3f\nO 7c C o 3f S 3f\nO 7c C o 3f S 3f\nO 7c C o 3f S 3f\nO 7c C o 3f S 3f\nO 7c C o 3f S 3f\nO 7c C o 3f S 3f\nO 7c C o 3f S 3f\nO 7c C o 3f S 3f\nO 7c C o 3f S 3f\nO 7c C o 3f S 3f\nO 7c C o 3f S 3f\nO 7c C o 3f S 3f\nO 7c C o 3f S 3f\nO 7c C o 3f S 3f\nO 7c C o 3f S 3f\nO 7c C o 3f S 3f\nO 7c C o 3f S 3f\nO 7c C o 3f S 3f\nO 7c C o 3f S 3f\nO 7c C o 3f S 3f\nO 7c C o 3f S 3f\nO 7c C o 3f S 3f\nO 7c C o 3f S 3f\nO 7c C o 3f S 3f\nO 7c C o 3f S 3f\nO 7c C o 3f S 3f\nO 7c C o 3f S 3f\nO 7c C o 3f S 3f\nO 7c C o 3f S 3f\nO 7c C o 3f S 3f\nO 7c C o 3f S 3f\nO 7c C o 3f S 3f\nO 7c C o 3f S 3f\nO 7c C o 3f S 3f\nO 7c C o 3f S 3f\nO 7c C o 3f S 3f\nO 7c C o 3f S 3f\nO 7c C o 3f S 3f\nO 7c C o 3f S 3f\nO 7c C o 3f S 3f\nO 7c C o 3f S 3f\nO 7c C o 3f S 3f\nO 7c C o 3f S 3f\nO 7c C o 3f S 3f\nO 7c C o 3f S 3f\nO 7c C o 3f S 3f\nO 7c C o 3f S 3f\nO 7c C o 3f S 3f\nO 7c C o 3f S 3f\nO 7c C o 3f S 3f\nO 7c C o 3f S 3f\nO 7c C o 3f S 3f\nO 7c C o 3f S 3f\nO 7c C o 3f S 3f\nO 7c C o 3f S 3f\nO 7c C o 3f S 3f\nO 7c C o 3f S 3f\nO 7c C o 3f S 3f\nO 7c C o 3f S 3f\nO 7c C o 3f S 3f\nO 7c C o 3f S 3f\nO 7c C o 3f S 3f\nO 7c C o 3f S 3f\nO 7c C o 3f S 3f\nO 7c C o 3f S 3f\nO 7c C o 3f S 3f\nO 7c C o 3f S 3f\nO 7c C o 3f S 3f\nO 7c C o 3f S 3f\nO 7c C o 3f S 3f\nO 7c C o 3f S 3f\nO 7c C o 3f S 3f\nO 7c C o 3f S 3f\nO 7c C o 3f S 3f\nO 7c C o 3f S 3f\nO 7c C o 3f S 3f\nO 7c C o 3f S 3f\nO 7c C o 3f S 3f\nO 7c C o 3f S 3f\nO 7c C o 3f S 3f\nO 7c C o 3f S 3f\nO 7c C o 3f S 3f\nO 7c C o 3f S 3f\nO 7c C o 3f S 3f\nO 7c C o 3f S 3f\nO 7c C o 3f S 3f\nO 7c C o 3f S 3f\nO 7c C o 3f S 3f\nO 7c C o 3f S 3f\nO 7c C o 3f S 3f\nO 7c C o 3f S 3f\nO 7c C o 3f S 3f\nO 7c C o 3f S 3f\nO 7c C o 3f S 3f\nO 7c C o 3f S 3f\nO 7c C o 3f S 3f\nO 7c C o 3f S 3f\nO 7c C o 3f S 3f\nO 7c C o 3f S 3f\nO 7c C o 3f S 3f\nO 7c C o 3f S 3f\nO 7c C o 3f S 3f\nO 7c C o 3f S 3f\nO 7c C o 3f S 3f\nO 7c C o 3f S 3f\nO 7c C o 3f S 3f\nO 7c C o 3f S 3f\nO 7c C o 3f S 3f\nO 7c C o 3f S 3f\nO 7c C o 3f S 3f\nO 7c C o 3f S 3f\nO 7c C o 3f S 3f\nO 7c C o 3f S 3f\nO 7c C o 3f S 3f\nO 7c C o 3f S 3f\nO 7c C o 3f S 3f\nO 7c C o 3f S 3f\nO 7c C o 3f S 3f\nO 7c C o 3f S 3f\nT 5k P 2f5 16d 1 bb 3 26t bb 5l C o 3f a e 1KX 27H 1KY 27I 1MS 27J 26J 27K 26K 27L 26G 27M 26L 27N 26H 27O 2 ~59 1LQ ~59 212 ~5j 213 ~5j 214 ~5j 1Xp ~bb\nT 5k P 2f6 16e 1 bb 3 26u bb 5l C ^ a p 1KX 27o 1KY 27p 1MS 27q 2f7 27r 2f8 27s 2f9 27t 2fa 27u 2fb 27v 2fc 27w 2fd 27x 2fe 27y 2ff 27z 2fg 27A 2fh 27B 2fi 27C 2fj 27D 2fk 27E 2fl 27F 2fm 27G 2 ~59 1LQ ~59 212 ~5j 213 ~5j 214 ~5j 1Xp ~bb\nT 5k P 2fn 16f 1 bb 3 26v bb 5l C ^ a k 1KX 27a 1KY 27b 1MS 27c 2fo 27d 2fp 27e 2fq 27f 2fr 27g 2fs 27h 2ft 27i 2fu 27j 2fv 27k 2fw 27l 2fx 27m 2fy 27n 2 ~59 1LQ ~59 212 ~5j 213 ~5j 214 ~5j 1Xp ~bb\nT 5k P 2fz 16g 1 bb 3 26w bb 5l C o 3f a a 1KX 276 1KY 277 1MS 278 2fA 279 2 ~59 1LQ ~59 212 ~5j 213 ~5j 214 ~5j 1Xp ~bb o 1 1L4 ~59\nT 5k P 2fB 16h 1 bb 3 26x bb 5l C ^ a b 1KX 271 1KY 272 1MS 273 2fC 274 2fD 275 2 ~59 1LQ ~59 212 ~5j 213 ~5j 214 ~5j 1Xp ~bb\nT 5k P 2fE 16i 1 5l 2 26y 5l C o 3f a c 1KY 26R 1Os 26S 1PE 26T 2fF 26U I4 26V 2fG 26W 2fH 26X 1Nq 26Y 11W 26Z NL 270 2 ~7d 1LQ ~59 o 1 2 ~7d\nT 5k P 2fI 16j 1 bb 3 26z bb 5l C o 3f a e 1KX 26J 1KY 26K 1MS 26L 2fJ 26M 12n 26N 2fK 26O 2fL 26P 2fM 26Q 2 ~59 1LQ ~59 212 ~5j 213 ~5j 214 ~5j 1Xp ~bb\nT 5k P 2fN 16k 1 bb 3 26A bb 5l C o 3f a e 1KX 26B 1KY 26C 1MS 26D 2fO 26E 2fP 26F 1ah 26G Nh 26H 1ai 26I 2 ~59 1LQ ~59 212 ~5j 213 ~5j 214 ~5j 1Xp ~bb\nO 7c C b S 26A o 1 1LQ ~7d\nO 6R C d D ^\nO 6G C d D ^ o 2 2 ~7d 1L4 ~7d\nO 6v D ^ o 1 2 ~59\nO 6v D ^ o 1 2 ~59\nO 6v D ^ o 1 2 ~59\nO 6v D ^ o 1 2 ~59\nO 6v D ^ o 1 2 ~59\nO 7c C b S 26z o 1 1LQ ~7d\nO 6R C d D ^\nO 6G C d D ^ o 2 2 ~7d 1L4 ~7d\nO 6v D ^ o 1 2 ~59\nO 6v D ^ o 1 2 ~59\nO 6v D ^ o 1 2 ~59\nO 6v D ^ o 1 2 ~59\nO 6v D ^ o 1 2 ~59\nO 6R C d D ^\nO 6G C d D ^\nO 6G C d D ^\nO 6G C d D ^\nO 6G C d D ^\nO 6G C d D ^\nO 6G C d D ^\nO 72 C d D ^ Y 7c\nO 6v D ^ o 1 2 ~59\nO 6v D ^ o 1 2 ~59\nO 7c C b S 26x o 1 1LQ ~7d\nO 6R C d D ^\nO 6G C d D ^ o 2 2 ~7d 1L4 ~7d\nO 6v D ^ o 1 2 ~59\nO 6v D ^ o 1 2 ~59\nO 7c C b S 26w o 1 1LQ ~7d\nO 6R C d D ^\nO 6G C d D ^ o 2 2 ~7d 1L4 ~7d\nO 6v D ^ o 1 2 ~59\nO 7c C b S 26v o 1 1LQ ~7d\nO 6R C d D ^\nO 6G C d D ^ o 2 2 ~7d 1L4 ~7d\nO 6v D ^\nO 6v D ^\nO 6v D ^\nO 6v D ^\nO 6v D ^\nO 6v D ^\nO 6v D ^\nO 6v D ^\nO 6v D ^\nO 6v D ^\nO 6v D ^\nO 7c C b S 26u o 1 1LQ ~7d\nO 6R C d D ^\nO 6G C d D ^ o 2 2 ~7d 1L4 ~7d\nO 6v D ^ o 1 2 ~59\nO 6v D ^ o 1 2 ~59\nO 6v D ^ o 1 2 ~59\nO 6v D ^ o 1 2 ~59\nO 6v D ^ o 1 2 ~59\nO 6v D ^ o 1 2 ~59\nO 6v D ^ o 1 2 ~59\nO 6v D ^ o 1 2 ~59\nO 6v D ^ o 1 2 ~59\nO 6v D ^ o 1 2 ~59\nO 6v D ^ o 1 2 ~59\nO 6v D ^ o 1 2 ~59\nO 6v D ^ o 1 2 ~59\nO 6v D ^ o 1 2 ~59\nO 6v D ^ o 1 2 ~59\nO 6v D ^ o 1 2 ~59\nO 7c C b S 26t o 1 1LQ ~7d\nO 6R C d D ^\nO 6G C d D ^ o 2 2 ~7d 1L4 ~7d\nO 6v D ^\nO 6v D ^\nO 6v D ^\nO 6v D ^\nO 6v D ^\nO kA a 2 11W ~59 NL ~59\nO 8N a 9 11W ~59 1M1 27P 1M2 ~59 1M3 ~7d 1M4 ~7d 1M5 ~8O 1M6 ~8P 1M7 ~59 1M8 ~8P\nO 9I C ^\nO 9I C ^ o 2 1NE ~bb 2 ~59\nO 9I C ^ o 2 1NE ~bb 2 ~59\nO 9I C ^ o 2 1NE ~bb 2 ~59\nO 9I C ^\nO 9I C ^\nO 9I C ^ o 1 1NE ~bb\nO 9I C ^\nO 9I C ^ o 2 1NE ~bb 2 ~59\nO 9I C ^\nO 9I C ^ o 2 1NE ~bb 2 ~59\nO 9I C ^ o 1 2 ~59\nO 9I C ^ o 1 2 ~59\nO 9I C ^ o 2 1NE ~bb 2 ~59\nO 9I C ^ o 1 2 ~59\nO 9I C ^ o 2 1NE ~bb 2 ~59\nO 9I C ^ o 2 1NE ~bb 2 ~59\nO 9I C ^\nT 5k P = 1ad 1 5l 2 289 5l C ^ a 8 1LQ ~59 1NF 28Y 2fQ 28Z 2fR 290 2fS 291 1L3 292 1M0 293 2 ~7d o 1 2 ~7d\nO 9I C ^\nT 5k P = 16k 1 28u 4 28b 28u bb 5l C ^ a a 1LQ ~59 2 ~59 1Xk ~bb 1aj 28v 1L7 28w 1Xm 28x 11d 28y 1L9 28z 1MS 28A 1L3 28B\nO 9I C ^ o 1 2 ~59\nO 9I C ^ o 1 2 ~59\nO 9I C ^ o 1 2 ~59\nO 9I C ^ o 1 2 ~59\nO 9I C ^ o 1 2 ~59\nO 9I C ^ o 1 2 ~59\nO 9I C ^ o 1 2 ~59\nO 9I C ^ o 2 1NE ~bb 2 ~59\nO 9I C ^ o 1 2 ~59\nO 9I C ^ o 1 2 ~59\nO 9I C ^ o 1 2 ~59\nO 9I C ^ o 1 2 ~59\nO 9I C ^ o 1 2 ~59\nO 9I C ^ o 1 2 ~59\nO 9I C ^ o 1 2 ~59\nO 9I C ^ o 2 1NE ~bb 2 ~59\nO 9I C ^\nO 9I C ^ o 1 2 ~59\nT 5k P = 2fT 1 bb 3 28u bb 5l C q 19N - 2fT a h 2 ~59 1On ~bb 1Xk ~bb 1Xl ~9J 1KX 28L 1Xm 28M 1Xn 28N 1KY 28O 1Xo 28P 1LP 28Q 1Xp ~bb 12n 28R 1ag 28S 1ah 28T Nh 28U 1ai 28V 1LQ ~59\nO 28D Z k ~59 a 4 1Ws 28E 2fU ~59 2 ~7d 21w ~17H\nO 9I C ^ o 1 1NB ~bb\nO b0 F 28C a 5 1LQ ~59 1 ~59 1MO ~59 2 ~7d RL ~9J\nO 9I C ^\nO 9I C ^\nO 9I C ^\nO 6l D ^ Z k ~9J\nO 9I C q 19N 16k 1Xm\nT 5k P = Jb 1 5l 2 28D 5l C ^ a 8 1LQ ~59 1L2 28F 1Nx 28G 1MY 28H 1Nq 28I 1L3 28J 1M0 28K 2 ~7d o 1 2 ~7d\nO 9I C q 19N 16k 1aj\nO 9I C ^\nO 9I C ^\nO 9I C ^ o 1 1NE ~bb\nO b0 F Aj a 4 1LQ ~59 1 ~59 1MO ~59 2 ~59\nO 6l D ^ I k ~9J\nO 6l D ^ I k ~7d\nO bz C t 1NP F 28X\nO b0 F 28W a 5 1LQ ~59 1 ~59 1MO ~59 2 ~7d RL ~9J\nO 9I C q tH 2fT 1Xn o 2 1NB ~bb 2 ~59\nO 9I C q tH 2fT 1KY o 2 1NB ~bb 2 ~59\nO 9I C q tH 2fT 1Xo o 2 1NB ~bb 2 ~59\nO 9I C q tH 2fT 1LP o 2 1NB ~bb 2 ~59\nO Jp Z k ~59\nO Jp Z k ~59\nO Jp Z k ~59\nO Jp Z k ~59\nO Jp Z k ~59\nO 9I C q tH 2fT 1Xm o 2 1NB ~bb 2 ~59\nO 9I C q 2fV 2fT 1KX o 1 2 ~59\nO b0 F 294 a 5 1LQ ~59 1 ~59 1MO ~59 2 ~7d RL ~9J\nO 9I C ^\nO 9I C ^\nO 9I C ^ o 1 2 ~59\nO 6l D ^\nO 6l D ^\nO 9I C q 19N 1ad 1NF\nO kA a 2 11W ~59 NL ~59\nO 8N a 9 11W ~59 1M1 295 1M2 ~59 1M3 ~7d 1M4 ~7d 1M5 ~8O 1M6 ~8P 1M7 ~59 1M8 ~8P\nO 9I C ^ o 1 2 ~59\nT 5k P = 19u 1 bb 3 298 bb 5l C ^ a f 2 ~59 1On ~bb 1Xk ~bb 1Xl ~9J 1KX 29N 1Xm 29O 1Xn 29P 1KY 29Q 1Xo 29R 1LP 29S 1Xp ~bb 2fW 29T 11W 29U 2fX 29V 1LQ ~59\nO 9I C ^ o 1 2 ~59\nO 9I C ^\nO 9I C ^ o 2 1NE ~bb 2 ~59\nO 9I C ^ o 2 1NE ~bb 2 ~59\nO 9I C ^ a 5 2Y 29H S3 29I S7 ~WI 2aK 29J 1NO 29K o 1 1NB ~bb\nO 9I C ^ o 1 1NE ~bb\nO 9I C ^\nT 5k P = 19C 1 5l 2 29g 5l C ^ a 7 1LQ ~59 2 ~59 1L2 29C 1LT 29D 19y 29E 1L3 29F 1M0 29G\nT 5k P = 19D 1 5l 2 29h 5l C ^ a g 1LQ ~59 2 ~59 sL ~7d 2fY ~7d 1L2 29q 1LZ 29r 19L 29s 2fZ 29t 2g0 29u 1LY 29v 1LW 29w 1LX 29x 2g1 29y 1NU 29z 1L3 29A 1M0 29B\nO 9I C ^ o 1 1NE ~bb\nO 9I C ^ o 1 2 ~59\nO 9I C ^ o 2 1NE ~bb 2 ~59\nO 9I C ^ o 1 2 ~59\nO 9I C ^ o 1 2 ~59\nO 9I C ^ o 1 2 ~59\nO 9I C ^ o 1 2 ~59\nO 9I C ^ o 1 2 ~59\nO 9I C ^\nO 9I C ^\nO 9I C ^\nO 9I C ^\nO 9I C ^\nO 9I C ^\nO 9I C ^ o 1 1NE ~bb\nO 9I C ^ o 1 1NE ~bb\nO 9I C ^\nO 9I C ^ o 1 1NE ~bb\nO 6l D ^\nO 6l D ^\nO 9I C ^ o 1 1NE ~bb\nO 9I C ^ o 1 1NE ~bb\nO 9I C ^ o 1 1NE ~bb\nO 6l D ^\nO 6l D ^\nO 9I C q vw 2g2 2Y o 3 1NB ~bb 1NE ~bb 2 ~59\nO 9I C q vw 2g2 S3 o 2 1NB ~bb 2 ~59\nO WO C q 3J 4x 1Nj F B4 S 29L\nO 9I C q 19r - 19z o 1 1NE ~bb\nO zh a 5 1Rq ~9J 21s 29M 21t ~8O 21u ~ns 2g3 ~8P o 1 1M0 ~z7\nO 9I C q uY 2g4 12r o 1 1NE ~bb\nO bz C t 1NP F 29X\nO b0 F 29W a 5 1LQ ~59 1 ~59 1MO ~59 2 ~7d RL ~9J\nO 9I C q tH 19u 1Xn o 2 1NB ~bb 2 ~59\nO 9I C q tH 19u 1KY o 2 1NB ~bb 2 ~59\nO 9I C q tH 19u 1Xo o 2 1NB ~bb 2 ~59\nO 9I C q tH 19u 1LP o 2 1NB ~bb 2 ~59\nO Jp\nO Jp\nO Jp\nO 9I C q tH 19u 1Xm o 2 1NB ~bb 2 ~59\nO 9I C q 2g5 19u 1KX o 1 2 ~59\nO kA a 2 11W ~59 NL ~59\nO 8N a 9 11W ~59 1M1 29Y 1M2 ~59 1M3 ~7d 1M4 ~7d 1M5 ~8O 1M6 ~8P 1M7 ~59 1M8 ~8P\nT 5k P 2g6 d6 0 5l 2 2a0 5l C o 3c a 4 1KX 2cG 23r 2cH 1ah 2cI 2 ~59\nT 5k P = d7 1 8r 4 2a1 8r 8s 5l C ^ a 3 1LQ ~59 1M0 2cF 2 ~7d o 1 2 ~7d\nT 5k P = d8 1 2a1 5 2a2 2a1 8r 8s 5l C ^ a 2 1LQ ~59 2 ~7d o 1 2 ~7d\nT 5k P = d9 1 2a1 5 2a3 2a1 8r 8s 5l C ^ a 2 1LQ ~59 2 ~7d o 1 2 ~7d\nT 5k P = 185 1 8r 4 2a4 8r 8s 5l C ^ a 4 1LQ ~59 1L2 2cD 1M0 2cE 2 ~7d o 1 2 ~7d\nT 5k P = 19g 1 5l 2 2a5 5l C ^ a c 1LQ ~59 2g7 ~5j 2g8 ~5j 1L2 2cv 2g9 2cw 2ga 2cx 2gb 2cy 13o 2cz 2gc 2cA 1L3 2cB 1M0 2cC 2 ~7d o 1 2 ~7d\nT 5k P = 19h 1 5l 2 2a6 5l C ^ a 9 1LQ ~59 1L2 2co 1PM 2cp 13k 2cq 1OV 2cr 2gd 2cs 1L3 2ct 1M0 2cu 2 ~7d o 1 2 ~7d\nO 9I C ^\nO 9I C ^ o 1 2 ~59\nO 9I C ^ o 1 2 ~59\nO 9I C ^ o 1 2 ~59\nT 5k P = 19m 1 5l 2 2ab 5l C ^ a x 1LQ ~59 1L2 2bV 2ge 2bW d0 2bX 2gf 2bY 2dN 2bZ 1NF 2c0 2gg 2c1 2gh 2c2 2gi 2c3 2gj 2c4 S3 ~9J 2gk 2c5 2gl 2c6 2gm 2c7 2gn 2c8 2go 2c9 2gp 2ca 2gq 2cb 2gr 2cc 2gs 2cd 2gt 2ce 2gu ~5j 2gv 2cf 2gw 2cg 2gx 2ch 2gy 2ci 2gz 2cj 2gA 2ck 2gB 2cl 1L3 2cm 1M0 2cn 2 ~7d o 1 2 ~7d\nT 5k P = 19n 1 5l 2 2ac 5l C ^ a 1j 1LQ ~59 1L2 2aF d2 2aG 2gC 2aH 2gD 2aI S3 ~9J 2gE 2aJ 2gd 2aK 2gF 2aL 2gG 2aM 2gH 2aN 2gI 2aO 2gJ 2aP 2gK 2aQ 2gL 2aR 2gM 2aS 2gN 2aT 2gO 2aU 2gP 2aV 2gQ 2aW 2gR 2aX 2gS 2aY 2gT 2aZ 2gU 2b0 2gV 2b1 2gW 2b2 2gX 2b3 2gY 2b4 2gZ 2b5 2h0 2b6 2h1 2b7 2h2 2b8 2h3 2b9 2h4 2ba 2h5 2bb 2h6 2bc 2h7 2bd 2h8 2be 2h9 2bf 2ha 2bg 2hb 2bh 2hc 2bi 2hd 2bj 2he 2bk 2hf 2bl 2hg 2bm 2hh 2bn 2hi 2bo 2hj 2bp 2hk 2bq 2hl 2br 2hm 2bs 2hn 2bt 2ho 2bu 2hp 2bv 2hq 2bw 2hr 2bx 2hs 2by 2ht 2bz 2hu 2bA 2hv 2bB 2hw 2bC 2hx 2bD 2hy 2bE 2hz 2bF 2hA 2bG 2hB 2bH 2hC 2bI 2hD 2bJ 2hE 2bK 2hF 2bL 2hG 2bM 2hH 2bN 2hI 2bO 2hJ 2bP 2hK 2bQ 2hL 2bR 2hM 2bS 1L3 2bT 1M0 2bU 2 ~7d o 1 2 ~7d\nO 9I C ^ o 2 1NE ~bb 1Nr ~9J\nO 9I C ^ o 2 1NE ~bb 1Nr ~9J\nO 9I C ^ o 1 1Nr ~9J\nO 9I C ^ o 1 1Nr ~9J\nT 5k P 2hN d4 0 5l 2 2ah 5l C ^ a b 1KX 2av 1L2 2aw d0 2ax 2ge 2ay 1LO 2az p0 2aA 2hO 2aB wh 2aC 2hP 2aD 2gh 2aE 2 ~59 o 1 1L4 ~59\nT 5k P 2hQ d5 0 5l 2 2ai 5l C ^ a 8 1KX 2ao 1L2 2ap d2 2aq 2ht 2ar 1LO 2as 2hP 2at 2gD 2au 2 ~59 o 1 1L4 ~59\nO 7c C ^ S v\nO 7c C ^ S v\nO 7c C ^ S v\nO 7c C ^ S v\nO 9I C ^\nO 7c C b S 2ai o 1 1LQ ~7d\nO 6R C d D ^\nO 6G C d D ^\nO 6G C d D ^\nO 6G C d D ^\nO 6l D ^ o 1 2 ~7d\nO 6l D ^ o 1 2 ~7d\nO 7c C b S 2ah o 1 1LQ ~7d\nO 6R C d D ^\nO 6G C d D ^\nO 6G C d D ^\nO 6G C d D ^\nO 6v D ^\nO 6v D ^\nO 6v D ^\nO 6l D ^ o 1 2 ~7d\nO 6l D ^ o 1 2 ~7d\nO 9I C ^ o 2 2 ~59 1Nr ~9J\nO 9I C ^ o 1 2 ~59\nO 9I C ^\nO 9I C ^\nO 9I C ^\nO 9I C ^\nO 9I C ^\nO 9I C ^\nO 9I C ^\nO 9I C ^\nO 9I C ^\nO 9I C ^\nO 9I C ^\nO 9I C ^\nO 9I C ^\nO 9I C ^\nO 9I C ^\nO 9I C ^\nO 9I C ^\nO 9I C ^\nO 9I C ^\nO 9I C ^\nO 9I C ^\nO 9I C ^\nO 9I C ^\nO 9I C ^\nO 9I C ^\nO 9I C ^\nO 9I C ^\nO 9I C ^\nO 9I C ^\nO 9I C ^\nO 9I C ^\nO 9I C ^\nO 9I C ^\nO 9I C ^\nO 9I C ^\nO 9I C ^\nO 9I C ^\nO 9I C ^\nO 9I C ^\nO 9I C ^\nO 9I C ^\nO 9I C ^\nO 9I C ^\nO 9I C ^\nO 9I C ^\nO 9I C ^\nO 9I C ^\nO 9I C ^\nO 9I C ^\nO 9I C ^\nO 9I C ^\nO 9I C ^\nO 9I C ^\nO 9I C ^\nO 9I C ^\nO 9I C ^\nO 9I C ^\nO 9I C ^\nO 9I C ^\nO 9I C ^\nO 9I C ^\nO 9I C ^\nO 9I C ^\nO 9I C ^\nO 9I C ^\nO 9I C ^\nO 9I C ^\nO 9I C ^\nO 9I C ^\nO 9I C ^\nO 9I C ^\nO 9I C ^\nO 9I C ^\nO 9I C ^\nO 6l D ^\nO 6l D ^\nO 9I C ^ o 3 1NE ~bb 2 ~59 1Nr ~9J\nO 9I C ^ o 1 2 ~59\nO 9I C ^ o 1 2 ~59\nO 9I C ^ o 1 2 ~59\nO 9I C ^\nO 9I C ^\nO 9I C ^ o 1 1NE ~bb\nO 9I C ^\nO 9I C ^\nO 9I C ^ o 2 1NE ~bb 1Nr ~9J\nO 9I C ^\nO 9I C ^\nO 9I C ^\nO 9I C ^\nO 9I C ^\nO 9I C ^\nO 9I C ^\nO 9I C ^\nO 9I C ^\nO 9I C ^\nO 9I C ^\nO 9I C ^\nO 9I C ^\nO 9I C ^\nO 9I C ^\nO 9I C ^ o 1 1NE ~bb\nO 9I C ^\nO 6l D ^\nO 6l D ^\nO 9I C ^ o 1 1NE ~bb\nO 9I C ^\nO 9I C ^\nO 9I C ^\nO 9I C ^\nO 6l D ^\nO 6l D ^\nO 9I C ^\nO 9I C ^\nO 9I C ^\nO 9I C ^ o 1 1NE ~bb\nO 9I C ^\nO 9I C ^\nO 6l D ^\nO 6l D ^\nO 9I C ^\nO 6l D ^\nO 6l D ^\nO 7c C b S 2a0 o 1 1LQ ~7d\nO 6G C d D ^\nO 6G C d D ^\nO kA a 2 11W ~59 NL ~59\nO 8N a 9 11W ~59 1M1 2cJ 1M2 ~59 1M3 ~7d 1M4 ~7d 1M5 ~8O 1M6 ~8P 1M7 ~59 1M8 ~8P\nO 9I C ^\nO 9I C ^\nT 5k P = 17I 1 5l 2 2cN 5l C ^ a 7 1LQ ~59 2 ~59 1L2 2fw 2hR 2fx 2hS 2fy 1L3 2fz 1M0 2fA\nT 5k P = 17J 1 2cN 3 2cO 2cN 5l C ^ a h 1LQ ~59 10a ~59 10c ~59 2hT ~8P 2hU 34 2hV ~8P 2hW ~ns 2hX ~59 2hY ~ns 2hZ 2fp 1Ld 2fq 2i0 2fr 2i1 2fs 2i2 2ft 2i3 2fu 2i4 2fv 2 ~7d o 1 2 ~7d\nT 5k P = 17K 1 2cN 3 2cP 2cN 5l C ^ a d 1LQ ~59 10a ~59 10c ~59 2hT ~8P 2hU 3a 2hV ~8P 2hZ 2fj 1Ld 2fk 2i0 2fl 2i1 2fm 2i3 2fn 2i4 2fo 2 ~7d o 1 2 ~7d\nO 2cO a 1 10i 2fi\nO 2cP a 1 10i 2fh\nO IO C ^ a 7 1Xz 2ff 1LQ ~59 1 ~59 1MO ~59 2 ~7d RL ~9J 1NO 2fg\nT 5k P = 17O 1 5l 2 2cT 5l C ^ a 6 1LQ ~59 2 ~59 1L2 2fb 2i5 2fc 1L3 2fd 1M0 2fe\nT 5k P = 17P 1 5l 2 2cU 5l C ^ a 5 1LQ ~59 2i6 2f8 1L3 2f9 1M0 2fa 2 ~7d o 1 2 ~7d\nT 5k P = 17Q 1 2cT 3 2cV 2cT 5l C ^ a 4 1LQ ~59 1L2 2f6 2i6 2f7 2 ~7d o 1 2 ~7d\nT 5k P = 17R 1 2cT 3 2cW 2cT 5l C ^ a 4 1LQ ~59 1L2 2f4 2i6 2f5 2 ~7d o 1 2 ~7d\nT 5k P = 17S 1 2cT 3 2cX 2cT 5l C ^ a 5 1LQ ~59 1L2 2f1 2i7 2f2 2i6 2f3 2 ~7d o 1 2 ~7d\nT hS P = 17T 1 Sp 8 2cY Sp Sq zN zO zP zQ 5l C ^ a d 1LQ ~59 2 ~59 1On ~bb 1L2 2eT 1L9 2eU 11d 2eV 1KY 2eW 2i8 2eX 2i9 2eY 2ia 2eZ 2ib 2f0 1MQ ~i2 1P3 ~i3\nT 5k P = 17U 1 5l 2 2cZ 5l C ^ a P 1LQ ~59 2 ~59 1On ~bb 1KX 2dR 1MS 2dS 2ic 2dT 2id 2dU 2ie 2dV 2if 2dW 2ig 2dX 1L6 2dY 2fH 2dZ 2ih 2e0 1NS 2e1 1KY 2e2 2ii 2e3 2ij 2e4 10L 2e5 1L5 2e6 10J 2e7 10K 2e8 10O 2e9 10N 2ea 2ik 2eb VM 2ec 2il 2ed 11W 2ee 1Py 2ef 1Pz 2eg 1PA 2eh 2im 2ei 2in 2ej 2io 2ek 2ip 2el 2iq 2em 2ir 2en 1PG 2eo 118 2ep 1Mo 2eq 1Ng 2er 1YD 2es 2is 2et 2i3 2eu 1dk 2ev 2it 2ew 2i8 2ex 1YP 2ey 2i9 2ez 2iu 2eA 2ib 2eB 2iv 2eC\nT 5k P = 17V 1 2cZ 3 2d0 2cZ 5l C ^ a 4 1LQ ~59 2 ~59 2iw 2cR 1On ~bb\nT 5k P = 17W 1 2cZ 3 2d1 2cZ 5l C ^ a 4 1LQ ~59 2 ~59 2iw 2cQ 1On ~bb\nT 5k P = RT 1 2cZ 3 2d2 2cZ 5l C o 3b a L 1LQ ~59 2 ~59 1On ~bb 1KX 2d6 2ix 2d7 1P8 2d8 1P9 2d9 2iy 2da 2c7 2db JM 2dc 1PF 2dd 2iz 2de Kt 2df 2iA 2dg 2iB 2dh NW 2di I4 2dj 2iC 2dk 1jk 2dl 9E 2dm 1PB 2dn NJ 2do 2iD 2dp 2iE 2dq 12i 2dr 2iF 2ds 12c 2dt 120 2du 2iG 2dv 12q 2dw 12l 2dx 12b 2dy 12k 2dz z5 2dA 2iH 2dB 2iI 2dC 2iJ 2dD JD 2dE 1Os 2dF 1PE 2dG 2iK 2dH 2fF 2dI 2iL 2dJ 2iM 2dK 2iN 2dL 2iO 2dM 10s 2dN\nT 5k P = 17X 1 2d2 5 2d3 2d2 2d0 2cZ 5l C ^ a 3 1LQ ~59 2 ~59 1On ~bb\nT 5k P = 17Y 1 2d2 5 2d4 2d2 2d1 2cZ 5l C ^ a 4 1LQ ~59 2 ~59 1On ~bb 2iK 2d5\nO 9I C ^\nO bz C t 1NP F 2dQ\nO 9I C ^\nO 9I C ^\nO 9I C ^\nO b0 F 2dP a 5 1LQ ~59 1 ~59 1MO ~59 2 ~59 RL ~9J\nO b0 F 2dO a 5 1LQ ~59 1 ~59 1MO ~59 2 ~59 RL ~9J\nO 9I C ^ o 1 2 ~59\nO 9I C ^ o 1 2 ~59\nO 9I C ^\nO 9I C ^ o 1 2 ~59\nO 9I C ^ o 1 2 ~59\nO 9I C ^ o 1 2 ~59\nO 9I C ^ o 2 1NE ~bb 2 ~59\nO 9I C ^ o 2 2 ~59 1Nr ~9J\nO 9I C ^ o 1 2 ~59\nO 9I C ^ o 1 2 ~59\nO 9I C ^ o 2 1NE ~bb 2 ~59\nO 9I C ^ o 1 2 ~59\nO 9I C ^ o 2 1NE ~bb 2 ~59\nO 9I C ^ o 1 2 ~59\nO 9I C ^ o 2 1NE ~bb 2 ~59\nO 9I C ^ o 1 2 ~59\nO 9I C ^ o 2 1NE ~bb 2 ~59\nO 9I C ^ o 2 1NE ~bb 2 ~59\nO 9I C ^ o 2 2 ~59 1Nr ~9J\nO 9I C ^ o 1 2 ~59\nO 9I C ^ o 2 1NE ~bb 2 ~59\nO 9I C ^ o 1 2 ~59\nO 9I C ^ o 1 2 ~59\nO 9I C ^ o 1 2 ~59\nO 9I C ^ o 1 2 ~59\nO 9I C ^ o 2 1NE ~bb 2 ~59\nO 9I C ^ o 1 2 ~59\nO 9I C ^ o 1 2 ~59\nO 9I C ^ o 1 2 ~59\nO 9I C ^ o 1 2 ~59\nO 9I C ^ o 1 2 ~59\nO 9I C ^ o 1 2 ~59\nO 9I C ^ o 1 2 ~59\nO 9I C ^ o 1 2 ~59\nO 9I C ^ o 1 2 ~59\nO 9I C ^ o 1 2 ~59\nO 9I C ^ o 1 2 ~59\nO 9I C ^ o 1 2 ~59\nO 9I C q MH RT 2c7 o 1 2 ~59\nO 9I C q MH RT 2iy o 1 2 ~59\nO 9I C q MH RT 1KX\nO bz C t 1NP F 2eS\nO 9I C ^\nO b0 F 2eR a 5 1LQ ~59 1 ~59 1MO ~59 2 ~7d RL ~9J\nO b0 F 2eQ a 5 1LQ ~59 1 ~59 1MO ~59 2 ~7d RL ~9J\nO b0 F 2eP a 5 1LQ ~59 1 ~59 1MO ~59 2 ~7d RL ~9J\nO b0 F 2eO a 5 1LQ ~59 1 ~59 1MO ~59 2 ~7d RL ~9J\nO 9I C ^\nO 9I C ^ o 1 2 ~59\nO 9I C ^\nO 9I C ^ o 1 2 ~59\nO 9I C ^ o 1 2 ~59\nO 9I C ^\nO 9I C ^ o 1 2 ~59\nO 9F Z k ~8O o 2 2 ~7d 1Ns 2eN\nO 9I C ^\nO 9I C ^\nO 9I C ^\nO 9I C ^\nO 9I C ^\nO 9I C ^\nO 9F Z k ~59 o 1 1Ns 2eM\nO 9F Z k ~59 o 1 1Ns 2eL\nO 9F Z k ~59 o 1 1Ns 2eK\nO 9F Z k ~59 o 1 1Ns 2eJ\nO 9F Z k ~59 o 1 1Ns 2eI\nO 9F Z k ~8O o 1 1Ns 2eH\nO 9F Z k ~59 o 1 1Ns 2eG\nO 9I C ^ o 1 2 ~59\nO 9I C ^ o 1 2 ~59\nO 9I C ^ o 1 2 ~59\nO 9I C ^ o 1 2 ~59\nO 9I C ^ o 1 2 ~59\nO 9F Z k ~bb o 1 1Ns 2eF\nO 9I C ^ o 1 2 ~59\nO 9I C ^\nO 9I C ^\nO 9F Z k ~2d3 o 1 1Ns 2eE\nO 9F Z k ~2cY o 1 1Ns 2eD\nO 9I C ^ o 1 2 ~59\nO 9I C ^ o 1 2 ~59\nO 9I C ^ o 1 2 ~59\nO 6v D ^ Z k $ qc 1 2iP\nO 6v D ^ Z k ~59\nO 6v D ^ Z k $ qc 1 2iQ\nO 6v D ^ Z k ~8O\nO 6v D ^ Z k $ qc 1 2iR\nO 6v D ^ Z k ~59\nO 6v D ^ Z k $ qc 1 2iS\nO 9I C q MH 17U 1YD o 1 2 ~59\nO 9I C q MH 17U 1Ng o 1 2 ~59\nO 9I C q MH 17U 2ir o 1 2 ~59\nO 9I C q MH 17U 1PA o 1 2 ~59\nO 9I C q MH 17U 1Pz o 1 2 ~59\nO 9I C q MH 17U 1Py o 1 2 ~59\nO 9I C q MH 17U 11W o 1 2 ~59\nO 9I C q MH 17U 2il o 1 2 ~59\nO 1JT C t 2iT\nO 1JT C t 2iT\nO 9I C q MH 17U 2ij\nO 9I C q MH 17U 2if\nO 9I C q MH 17U 2ie\nO 9I C q MH 17U 2id\nO 9I C q MH 17U 2ic\nO 9I C q MH 17U 1KX o 1 2 ~59\nO 9I C ^\nO 9I C ^\nO 9I C ^\nO 9I C ^\nO 6v D ^\nO 6v D ^\nO 6v D ^\nO 6v D ^\nO 9I C ^\nO 9I C ^\nO 9I C ^\nO 9I C ^\nO 9I C ^\nO 9I C ^\nO 9I C ^\nO 9I C ^\nO 6l D ^\nO 6l D ^\nO 9I C ^\nO 9I C ^ o 1 2 ~59\nO 6l D ^\nO 6l D ^\nO 9I C q vw 1XG 1XF o 1 1NB ~bb\nO 9I C q MH - 17N\nO 7c C q pA pY 10i S ~59 o 1 1LQ ~7d\nO 7c C q pA pY 10i S ~59 o 1 1LQ ~7d\nO 9I C ^ o 1 1NE ~bb\nO 9I C ^\nO 9I C ^\nO 9I C ^\nO 9I C ^\nO 9I C ^\nO 9I C ^ o 1 1NE ~bb\nO 9I C ^\nO 9I C ^\nO 9I C ^\nO 9I C ^ o 1 1NE ~bb\nO 9I C ^\nO 9I C ^\nO 9I C ^\nO 9I C ^\nO 9I C ^ o 1 2 ~59\nO 6l D ^ I k ~9J\nO 6l D ^ I k ~7d\nO 8N a 9 11W ~59 1M1 d6 1M2 ~59 1M3 2g7 1M4 ~7d 1M5 ~8O 1M6 ~8P 1M7 ~7d 1M8 ~8P o 1 1M9 ~7d\nO 9I C ^ o 1 2 ~59\nO 9I C ^ o 1 2 ~59\nO 9I C ^ o 1 2 ~59\nO 9I C ^ o 1 2 ~59\nO 9I C ^ o 1 2 ~59\nO 9I C ^ o 1 2 ~59\nO 9I C ^ o 1 2 ~59\nO 9I C ^ o 1 2 ~59\nO 9I C ^ o 1 2 ~59\nO 9I C ^ o 1 2 ~59\nO 9I C ^ o 1 2 ~59\nO 9I C ^\nO 9I C ^ o 1 2 ~59\nO 9I C ^ o 1 2 ~59\nO 9I C ^ o 1 2 ~59\nO 9I C ^ o 1 2 ~59\nO 9I C ^ o 1 2 ~59\nO 9I C ^ o 1 2 ~59\nO 9I C ^ o 1 2 ~59\nO 9I C ^ o 1 2 ~59\nO 9I C ^ o 1 2 ~59\nO 9I C ^ o 1 2 ~59\nO 9I C ^ o 1 2 ~59\nO 9I C ^ o 1 2 ~59\nO 9I C ^ o 1 2 ~59\nO 9I C ^ o 1 2 ~59\nO 9I C ^ o 1 2 ~59\nO 9I C ^ o 2 2 ~59 1Nr ~9J\nO 9I C ^\nO 9I C ^ o 2 1NE ~bb 2 ~59\nO 9I C ^ o 1 2 ~59\nO fx a 2 Ik ~59 1Oj ~59\nO 8N a 9 11W ~59 1M1 d6 1M2 ~59 1M3 2gZ 1M4 ~7d 1M5 ~8O 1M6 ~8P 1M7 ~7d 1M8 ~8P o 1 1M9 ~7d\nO 9I C ^\nO 9I C ^\nO 9I C ^\nO 9I C ^ o 2 1NE ~bb 2 ~59\nO 9I C ^ o 1 2 ~59\nO 9I C ^ o 1 2 ~59\nO 9I C ^ o 2 1NE ~bb 2 ~59\nO 9I C ^\nO 9I C ^ o 3 1NE ~bb 2 ~59 1Nr ~9J\nO 9I C ^\nO 9I C ^ o 1 2 ~59\nO 9I C ^ o 1 2 ~59\nO 9I C ^ o 1 2 ~59\nO 9I C ^ o 1 2 ~59\nO 9I C ^ o 1 2 ~59\nO 9I C ^ o 1 2 ~59\nO 9I C ^ o 1 1NE ~bb\nO 9I C ^ o 2 1NE ~bb 2 ~59\nO 9I C ^ o 2 1NE ~bb 2 ~59\nO 1To a 5 2d2 2gY 2d3 db 2d4 2gY 2d5 db 1UK ~9J\nO 9I C ^ o 2 1NE ~bb 2 ~59\nO 9I C q os 2iU 16J o 2 1NB ~bb 2 ~59\nO 9I C q os 2iU 16K o 2 1NB ~bb 2 ~59\nO 9I C ^\nO 9I C ^ o 1 2 ~59\nO 9I C ^ o 1 2 ~59\nO 9I C ^ o 1 2 ~59\nO 9I C ^ o 1 2 ~59\nO 9I C ^ o 1 2 ~59\nO 9I C ^ o 1 2 ~59\nO 9I C ^ o 1 2 ~59\nO 9I C ^ o 1 2 ~59\nO 9I C ^ o 1 1NE ~bb\nT 5k P = 16Y 1 5l 2 2gG 5l C ^ a a 1LQ ~59 1L2 2gQ eD 2gR 1P8 2gS 1P9 2gT us 2gU 1L7 2gV 1L3 2gW 1M0 2gX 2 ~7d o 1 2 ~7d\nO 9I C ^ o 1 1NE ~bb\nO 9I C ^ o 1 2 ~59\nT hS P = 171 1 QU 3 2gJ QU 5l C ^ a 9 1LQ ~59 2 ~59 2fH 2gK 1MU 2gL 1Nq 2gM 1L3 2gN 1M0 2gO 1MQ ~i2 1P3 ~i3\nO 9I C ^ a 1 1Nz ~8P o 1 2 ~59\nO b0 F 2gP a 5 1LQ ~59 1 ~59 1MO ~59 2 ~7d RL ~9J\nO b0 F Aj a 4 1LQ ~59 1 ~59 1MO ~59 2 ~59\nO 6l D ^\nO 6l D ^\nO 9I C q os 171 1MU\nO 9I C ^\nO 9I C ^\nO 9I C ^\nO 9I C ^\nO 9I C ^\nO 9I C ^\nO 6l D ^\nO 6l D ^\nO 9I C q os - 2iV\nO fx a 2 Ik ~59 1Oj ~59\nO kA a 2 11W ~59 NL ~59\nO 8N a 9 11W ~59 1M1 2h0 1M2 ~59 1M3 ~7d 1M4 ~7d 1M5 ~8O 1M6 ~8P 1M7 ~59 1M8 ~8P\nO 9I C ^\nO 9I C o 1S\nO 9I C o 1S\nT 5k P = 11w 1 8r 4 2h5 8r 8s 5l C ^ a 5 1LQ ~59 1L2 2jk 1L6 2jl 1M0 2jm 2 ~7d o 1 2 ~7d\nT 5k P = 11x 1 2h5 5 2h6 2h5 8r 8s 5l C ^ a 4 1LQ ~59 2 ~59 1L2 2ji 1L6 2jj\nT 5k P = 11y 1 2h6 6 2h7 2h6 2h5 8r 8s 5l C ^ a 2 1LQ ~59 2 ~59\nT 5k P = 11z 1 2h5 5 2h8 2h5 8r 8s 5l C ^ a 2 1LQ ~59 2 ~59\nT 5k P = 11A 1 2h5 5 2h9 2h5 8r 8s 5l C ^ a 4 1LQ ~59 2 ~59 1L2 2jg 1L6 2jh\nT 5k P = 11B 1 2h9 6 2ha 2h9 2h5 8r 8s 5l C ^ a 4 1LQ ~59 2 ~59 1L2 2je 1L6 2jf\nT 5k P = mj 1 5l 2 2hb 5l C ^ a k 1LQ ~59 2 ~59 2iW ~59 1L2 2iX 2iX 2iY 2iY 2iZ 2iZ 2j0 1vI 2j1 1vH 2j2 2j0 2j3 2j1 2j4 2j2 2j5 2j3 2j6 2j4 2j7 2j5 2j8 2j6 2j9 2j7 2ja 2j8 2jb 1L3 2jc 1M0 2jd\nT 5k P = 11C 1 2hb 3 2hc 2hb 5l C ^ a 5 1LQ ~59 2 ~59 1L2 2iU 2j0 2iV 2j1 2iW\nT 5k P = 11D 1 2hb 3 2hd 2hb 5l C ^ a 5 1LQ ~59 2 ~59 1L2 2iR 2j0 2iS 2j1 2iT\nO 9I C ^\nO 9I C ^\nO 9I C ^\nO 9I C ^\nT 5k P = 11K 1 5l 2 2hi 5l C ^ a w 1LQ ~59 2 ~59 2j9 ~8O 2ja ~bb 2jb ~bb 2jc ~bb 2jd ~bb 2je ~bb 2jf ~bb 2jg ~9J 2jh ~8O 1L2 2ix 2ji 2iy 2jj 2iz 2jk 2iA 2jl 2iB 2jm 2iC 2jn 2iD 2jo 2iE 2jp 2iF 2jq 2iG 2jr 2iH 1L6 2iI 1KY 2h2 2js 2iJ 2jt 2iK 2ju 2iL 2jv 2iM ut 2iN 2jw 2iO 1L3 2iP 1M0 2iQ\nT 5k P = 11N 1 5l 2 2hj 5l C ^ a f 1LQ ~59 1L2 2im 1L6 2in 1KY 2h2 10L 2io 2jx 2ip 2jy 2iq 2jz 2ir 2jA 2is 2jB 2it 2jC 2iu 1L3 2iv 1M0 2iw 2 ~7d 1L5 ~7d o 1 2 ~7d\nT 5k P = 11O 1 5l 2 2hk 5l C ^ a k 1LQ ~59 2 ~59 1L2 2i4 2jD 2i5 2jE 2i6 2jF 2i7 2jG 2i8 2jH 2i9 2jI 2ia 2jJ 2ib 2jK 2ic 2jL 2id 2jM 2ie 2jN 2if 2jO 2ig 2jP 2ih 2j3 2ii 2jQ 2ij 1L3 2ik 1M0 2il\nT 5k P = 11P 1 2hk 3 2hl 2hk 5l C ^ a 7 1LQ ~59 1L2 2hZ 2jR 2i0 2jS 2i1 2jI 2i2 2jQ 2i3 2 ~7d o 1 2 ~7d\nT 5k P = 11Q 1 2hk 3 2hm 2hk 5l C ^ a E 1LQ ~59 2 ~59 2jT ~8O 1L2 2ho 2jI 2hp 2jR 2hq 2jU 2hr 2jV 2hs 2jW 2ht 2jX 2hu 2jY 2hv 2jZ 2hw 2k0 2hx 2k1 2hy 2k2 2hz 2k3 2hA 2k4 2hB 2k5 2hC 2k6 2hD 2k7 2hE 2k8 2hF 2k9 2hG 2ka 2hH 2kb 2hI 2kc 2hJ 2kd 2hK 2ke 2hL 2kf 2hM 2kg 2hN 2jH 2hO lp 2hP eX 2hQ 2kh 2hR 2ki 2hS 2kj 2hT 2kk 2hU 2jP 2hV 2j4 2hW 2jQ 2hX 2kl 2hY\nO 9I C ^ o 1 2 ~59\nO 9I C ^ o 1 1NE ~bb\nO 9I C ^ o 1 2 ~59\nO 9I C ^\nO 9I C ^\nO 9I C ^\nO 9I C ^ o 1 1NE ~bb\nO 9I C ^\nO 9I C ^\nO 9I C ^ o 1 2 ~59\nO 9I C ^ o 1 2 ~59\nO 9I C ^\nO 9I C ^\nO 9I C ^\nO 9I C ^\nO 9I C ^\nO 9I C ^\nO 9I C ^\nO 9I C ^\nO 9I C ^ o 2 1NE ~bb 2 ~59\nO 9I C ^ o 1 2 ~59\nO 9I C ^ o 1 2 ~59\nO 9I C ^ o 1 2 ~59\nO 9I C ^\nO 9I C ^\nO 9I C ^\nO 9I C ^\nO 9I C ^\nO 9I C ^ o 1 1NE ~bb\nO 9I C ^ o 1 2 ~59\nO 9I C ^\nO 9I C ^ o 2 1NE ~bb 2 ~59\nO 9I C ^\nO 9I C ^ o 2 1NE ~bb 2 ~59\nO 9I C ^ o 1 1NE ~bb\nO 9I C ^\nO 9I C ^ o 1 1NE ~bb\nO 9I C ^ o 2 1NE ~bb 2 ~59\nO 9I C ^ o 1 1NE ~bb\nO 9I C ^\nO 9I C ^\nO 9I C ^ o 1 2 ~59\nO 9I C ^\nO 9I C ^\nO 9I C ^\nO 9I C ^\nO 9I C ^\nO 9I C ^\nO 9I C ^\nO 9I C ^ o 1 2 ~59\nO 9I C ^\nO 9I C ^ o 1 2 ~59\nO 9I C ^\nO 9I C ^\nO 9I C ^\nO 9I C ^\nO 9I C ^\nO 9I C ^\nO 9I C ^\nO 6l D ^\nO 6l D ^\nO 9I C ^ o 1 1NE ~bb\nO 9I C ^\nO 9I C ^\nO 9I C ^ o 1 2 ~59\nO 9I C ^ o 1 2 ~59\nO 9I C ^\nO 9I C ^ o 1 1NE ~bb\nO 9I C ^ o 1 1NE ~bb\nO 9I C ^\nO 6l D ^\nO 6l D ^\nO 9I C ^\nO 9I C ^\nO 9I C ^\nO 9I C ^\nO 9I C ^\nO 9I C ^\nO 9I C ^\nO 9I C ^\nO 9I C ^\nO 9I C ^\nO 9I C ^\nO 9I C ^\nO 9I C ^\nO 9I C ^\nO 9I C ^\nO 9I C ^\nO 9I C ^\nO 9I C ^\nO 6l D ^\nO 6l D ^\nO 9I C ^ o 1 1NE ~bb\nO 9I C ^\nO 9I C ^\nO 9I C ^ o 1 1NE ~bb\nO 9I C ^\nO 9I C ^\nO 9I C ^\nO 9I C ^\nO 9I C ^\nO 9I C ^\nO 9I C ^\nO 9I C ^\nO 9I C ^\nO 9I C ^\nO 9I C ^ o 1 2 ~59\nO 9I C ^\nO 9I C ^\nO 9I C ^\nO 9I C ^\nO 9I C ^\nO 9I C ^ o 1 2 ~59\nO 6l D ^\nO 6l D ^\nO 9I C ^\nO 9I C ^\nO 9I C ^\nO 9I C ^\nO 9I C ^\nO 9I C ^\nO 9I C ^\nO 9I C ^\nO 6l D ^\nO kA a 2 11W ~59 NL ~59\nO 8N a 9 11W ~59 1M1 2jn 1M2 ~59 1M3 ~7d 1M4 ~7d 1M5 ~8O 1M6 ~8P 1M7 ~59 1M8 ~8P\nO 7c C ^ S X\nO 7c C ^ S u\nO 7c C ^ S u\nO 7c C ^ S u\nO 7c C ^ S u\nO 7c C ^ S u\nO 7c C ^ S u\nO 7c C ^ S u\nO 7c C ^ S u\nO 7c C ^ S u\nO 7c C ^ S u\nO 7c C ^ S u\nO 7c C ^ S u\nO 7c C ^ S u\nO 7c C ^ S u\nO 7c C ^ S u\nO 7c C ^ S u\nO 7c C ^ S u\nO 7c C ^ S u\nO 7c C ^ S u\nO 7c C ^ S u\nO 7c C ^ S u\nO 7c C ^ S u\nO 7c C ^ S u\nO 7c C ^ S u\nO 7c C ^ S u\nO 7c C ^ S u\nO 7c C ^ S u\nO 7c C ^ S u\nO 7c C ^ S u\nO 7c C ^ S u\nO 7c C ^ S u\nO 7c C ^ S u\nO 7c C ^ S u\nO 7c C ^ S u\nO 7c C ^ S u\nO 7c C ^ S u\nT 5k P 2km cY 1 5l 2 2k0 5l C o 37 a 7 1KX 2kf 1KY 2kg 10T 2kh 1KZ 2ki 1MS 2kj 2 ~59 1LQ ~59\nO 7c C ^ S u\nO 7c C ^ S u\nO 7c C ^ S u\nO 7c C ^ S u\nO 7c C ^ S u\nO 7c C ^ S u\nO 7c C ^ S u\nO 7c C ^ S u\nO 7c C ^ S u\nO 7c C ^ S u\nO 7c C ^ S u\nO 7c C ^ S u\nO 7c C ^ S u\nO 7c C ^ S u\nO 7c C b S 2k0 o 1 1LQ ~7d\nO 6R C d D ^\nO 6R C d D ^\nO 6R C d D ^\nO 6G C d D ^ o 1 1L4 ~7d\nO kA a 2 11W ~59 NL ~59\nO 8N a 9 11W ~59 1M1 2kk 1M2 ~59 1M3 ~7d 1M4 ~7d 1M5 ~8O 1M6 ~8P 1M7 ~59 1M8 ~8P\nO 7c C ^ S t\nO kA a 2 11W ~59 NL ~59\nO 8N a 9 11W ~59 1M1 2kn 1M2 ~59 1M3 ~7d 1M4 ~7d 1M5 ~8O 1M6 ~8P 1M7 ~59 1M8 ~8P\nT hS P = 10F 1 1nG 6 2kp 1nG 1nH 1nI 1nJ 5l C ^ a m 1LQ ~59 2 ~59 1On ~bb 1Ml 2kq 10V 2kr 115 2ks 10Y 2kt 1Mg 2ku 116 2kv 1Mh 2kw 10S 2kx 1Mi 2ky 119 2kz 1Mj 2kA 113 2kB 1Mk 2kC 10X 2kD 1Mm 2kE 1MA 2kF 1MB 2kG 1MQ ~i2 1P3 ~i3\nO 9I C ^ a 1 1Nz ~8P o 1 2 ~59\nO 9I C ^ o 1 2 ~59\nO 9I C ^ a 1 1Nz ~8P o 2 1NE ~bb 2 ~59\nO 9I C ^ a 1 1Nz ~8P o 1 2 ~59\nO 9I C ^ a 1 1Nz ~8P o 1 2 ~59\nO 9I C ^ a 1 1Nz ~8P o 1 2 ~59\nO 9I C ^ a 1 1Nz ~8P o 1 2 ~59\nO 9I C ^ a 1 1Nz ~8P o 1 2 ~59\nO 9I C ^ a 1 1Nz ~8P o 1 2 ~59\nO 9I C ^ a 1 1Nz ~8P o 1 2 ~59\nO 9I C ^ a 1 1Nz ~8P o 1 2 ~59\nO 9I C ^ a 1 1Nz ~8P o 1 2 ~59\nO 9I C ^ a 1 1Nz ~8P o 1 2 ~59\nO 9I C ^ a 1 1Nz ~8P o 1 2 ~59\nO 9I C ^ o 1 2 ~59\nO 9F o 1 1Ns 2kI\nO 9F o 1 1Ns 2kH\nO 9I C q Iz 10F 1MB o 1 2 ~59\nO 9I C q Iz 10F 1MA o 1 2 ~59\nO 8N a 9 11W ~59 1M1 d6 1M2 ~59 1M3 2l2 1M4 ~7d 1M5 ~8O 1M6 ~8P 1M7 ~7d 1M8 ~8P o 1 1M9 ~7d\nO 9I C ^\nO 9I C ^ o 1 2 ~59\nO 9I C ^ o 1 2 ~59\nO 9I C ^\nO 9I C ^ o 1 2 ~59\nO 9I C ^ o 1 2 ~59\nO 9I C ^ o 1 2 ~59\nO 9I C ^ o 1 2 ~59\nO 9I C ^ o 1 2 ~59\nO 9I C ^ o 1 2 ~59\nO 9I C ^ o 1 2 ~59\nO 9I C ^ o 1 2 ~59\nO 9I C ^ o 1 2 ~59\nO 9I C ^ o 1 2 ~59\nO 9I C ^ o 1 2 ~59\nO 9I C ^ o 1 2 ~59\nO 9I C ^ o 2 1NE ~bb 2 ~59\nO 9I C ^ o 1 2 ~59\nO fx a 2 Ik ~59 1Oj ~59\nO kA a 2 11W ~59 NL ~59\nO 8N a 9 11W ~59 1M1 2l3 1M2 ~59 1M3 ~7d 1M4 ~7d 1M5 ~8O 1M6 ~8P 1M7 ~59 1M8 ~8P\nO 9I C ^\nO 9I C o 33\nO 9I C o 33\nO 9I C ^\nO 9I C ^ o 1 2 ~59\nO 9I C ^ o 2 1NE ~bb 2 ~59\nO 9I C ^\nO 9I C ^\nO 9I C ^\nO 9I C ^\nO zf a 4 21s 2lK 21t ~8O 21u ~ns 1Rq ~9J o 1 1M0 ~z7\nO 9I C ^\nO 9I C o 33\nT 5k P = Zj 1 5l 2 2li 5l C o 33 a 9 1LQ ~59 2 ~59 1L2 2lD 10T 2lE 21U 2lF 2kn 2lG 1KY 2lH 1L3 2lI 1M0 2lJ\nO 9I C ^ o 2 1NE ~bb 2 ~59\nO 9I C o 33 o 1 2 ~59\nO 9I C ^ o 1 1NE ~bb\nT 5k P = ZX 1 5l 2 2lm 5l C ^ a 8 1LQ ~59 1L2 2lx 21c 2ly 1P8 2lz 1P9 2lA 1L3 2lB 1M0 2lC 2 ~7d o 1 2 ~7d\nT 5k P = ZY 1 18i 3 2ln 18i 5l C ^ a 5 1LQ ~59 1L2 2lu 1MS 2lv 1L3 2lw 2 ~7d o 1 2 ~7d\nO 9I C ^\nO 9I C ^\nO 9I C ^\nO 9I C ^\nO 9I C ^ o 1 2 ~59\nO 9I C ^ o 1 2 ~59\nO 9I C ^\nO 9I C ^\nO 6l D ^\nO 9I C ^\nO 9I C ^\nO 9I C ^\nO 9I C ^\nO 6l D ^\nO 6l D ^\nO 9I C ^ o 1 1NE ~bb\nO 9I C ^ o 2 1NE ~bb 2 ~59\nO 9I C ^ o 1 2 ~59\nO 9I C ^ o 1 2 ~59\nO 9I C ^\nO 6l D ^\nO 6l D ^\nO 9I C q uY 2ko 12r o 1 1NE ~bb\nO kA a 2 11W ~59 NL ~59\nO 8N a 9 11W ~59 1M1 2lL 1M2 ~59 1M3 ~7d 1M4 ~7d 1M5 ~8O 1M6 ~8P 1M7 ~59 1M8 ~8P\nT 5k P = Zo 1 2ah 3 2lN 2ah 5l C o 32 a a 1LQ ~59 2 ~59 2kp ~9J 2kq ~9J 1L2 2ma 2Y 2mb d1 2mc d3 2am 1L3 2md 1M0 2me\nO WO C q Zm Zo 2Y F 2m9 S 2lN\nO 9I C ^ o 2 1NE ~bb 2 ~59\nO 9I C ^ o 1 2 ~59\nO 9I C ^ o 1 2 ~59\nO 9I C ^ o 1 2 ~59\nO 9I C ^ o 1 2 ~59\nO 9I C ^ o 1 2 ~59\nO 9I C ^\nT 5k P = Zw 1 5l 2 2lW 5l C ^ a 5 1LQ ~59 2kr 2m6 1L3 2m7 1M0 2m8 2 ~7d o 1 2 ~7d\nO 9I C ^\nO 9I C ^\nO 9I C ^\nO 9I C ^\nO 9I C ^\nT hS P = ZC 1 5l 2 2m2 5l C ^ a k 1LQ ~59 2 ~59 Zo 2lN 2Y 2lO d0 2lP Zs 2lS Zt 2lT Zq 2lQ Zr 2lR Zu 2lU Zv 2lV Zx 2lX Zz 2lZ ZA 2m0 ZB 2m1 1L2 2m3 1L3 2m4 1M0 2m5 1MQ ~i2 1P3 ~i3\nO 9I C ^\nO 6l D ^\nO 6l D ^\nO 9I C ^\nO 6l D ^\nO 6l D ^\nO 9I C q Zm Zo 2Y o 1 2 ~59\nO 9I C ^ o 1 1NB ~bb\nO b0 F 2m9 a 5 1LQ ~59 1 ~59 1MO ~59 2 ~59 RL ~9J\nO b0 F 2mf a 5 1LQ ~59 1 ~59 1MO ~59 2 ~7d RL ~9J\nO 6l D ^\nO 6l D ^\nO 9I C q Zm Zo d1 o 1 1NE ~bb\nO kA a 2 11W ~59 NL ~59\nO 8N a 9 11W ~59 1M1 2mg 1M2 ~59 1M3 ~7d 1M4 ~7d 1M5 ~8O 1M6 ~8P 1M7 ~59 1M8 ~8P\nT 5k P = uX 1 5l 2 2mi 5l C o 31 a o 1LQ ~59 1L2 2mB 1MT 2mC 1N8 2mD 1wi 2mE 2ks 2mF 2dN 2mG 1NF 2mH 2dP 2mI 27g 2mJ 2dR 2mK 2dM 2mL 2dO 2mM eD 2mN 2kt 2mO 2ku 2mP 2kv 2mQ 2kw 2mR 2kx 2mS 2ky 2mT 2kz 2mU 1L3 2mV 1M0 2mW 2 ~7d o 1 2 ~7d\nT 5k P = XQ 1 2mi 3 2mj 2mi 5l C ^ a 8 1LQ ~59 1L2 2mv 1MT 2mw 1N8 2mx 2dN 2my 2dQ 2mz 10i 2mA 2 ~7d o 1 2 ~7d\nT 5k P = de 1 5l 2 2mk 5l C ^ a c 1LQ ~59 1L2 2ml eD 2mm 27g 2mn 1MT 2mo 1N8 2mp 1NF 2mq 2dN 2mr 1Nq 2ms 1L3 2mt 1M0 2mu 2 ~7d o 1 2 ~7d\nO 9I C ^\nO 9I C ^\nO 9I C ^\nO 9I C ^\nO 9I C ^\nO 9I C ^\nO 9I C ^\nO b0 F Aj a 4 1LQ ~59 1 ~59 1MO ~59 2 ~59\nO 6l D ^\nO 6l D ^\nO 9I C ^ o 1 1NE ~bb\nO 9I C ^\nO 9I C ^\nO 9I C ^ o 1 1NE ~bb\nO 9I C ^\nO 9I C ^\nO 9I C ^ o 1 1NE ~bb\nO 9I C ^\nO 9I C ^\nO 9I C ^\nO 9I C ^ o 1 1NE ~bb\nO 9I C ^ o 1 1NE ~bb\nO 9I C ^ o 1 1NE ~bb\nO 9I C ^\nO 9I C ^\nO 9I C ^\nO 9I C ^\nO 9I C ^\nO 9I C ^\nO 9I C ^\nO 9I C ^\nO 9I C ^\nO bz C ^ F 2n0 a 5 1LQ ~59 1 ~59 1MO ~59 2 ~7d RL ~9J\nO bz C ^ F 2mZ a 5 1LQ ~59 1 ~59 1MO ~59 2 ~7d RL ~9J\nO bz C ^ F 2mY a 5 1LQ ~59 1 ~59 1MO ~59 2 ~7d RL ~9J\nO bz C ^ F 2mX a 5 1LQ ~59 1 ~59 1MO ~59 2 ~59 RL ~9J\nO 6l D ^\nO 6l D ^\nO 9I C q Zh uX 2kz o 1 2 ~59\nO 9I C q Zh uX 2ky\nO 9I C q Zh uX 2kx\nO 9I C q Zh uX 2kw\nO kA a 2 11W ~59 NL ~59\nO 8N a 9 11W ~59 1M1 2n1 1M2 ~59 1M3 ~7d 1M4 ~7d 1M5 ~8O 1M6 ~8P 1M7 ~59 1M8 ~8P\nO 9I C o 30 o 1 2 ~59\nO 9I C o 30 o 1 2 ~59\nO 9I C o 30 o 1 2 ~59\nO 9I C ^\nT 5k P = Z8 1 5l 2 2n7 5l C ^ a o 1LQ ~59 2 ~59 2kA 2nn 1L2 2no 2kB 2np 1pJ 2nq 1Rr 2nr 23O 2ns 12V 2nt 10i 2nu 21K 2nv eD 2nw 11W 2nx 21L 2ny 2kC 2nz 2kD 2nA 21I 2nB 2kE 2nB 2kF 2nC 1KY 2nD 7C 2nE 1wi 2nF 1L3 2nG 1M0 2nH\nT 5k P = Z9 1 db 3 2n8 db 5l C ^ a 4 1LQ ~59 1MS 2nl 1L3 2nm 2 ~7d o 1 2 ~7d\nT 5k P = Za 1 2n7 3 2n9 2n7 5l C ^ a 7 1LQ ~59 1L2 2ng 21K 2nh 21I 2ni 10i 2nj 2kE 2ni 2 ~7d o 1 2 ~7d\nO 2nd a 6 2kG ~bb 1TQ ~59 2kH ~7d 2kI ~7d 26C ~8P 2kJ ~9J\nO zc a 4 1Rq ~ns 21s 2nc 21t ~8O 21u ~ns o 1 1M0 ~z7\nO 9I C q lV 22i 21s o 1 1NE ~bb\nT 5k P = 2kK 1 2n7 3 2nd 2n7 5l C q Z5 - 2kK a 4 1LQ ~59 1L2 2ne eD 2nf 2 ~7d o 1 2 ~7d\nO 9I C ^\nO 9I C ^\nO 9I C ^\nO 9I C ^\nO 9F o 2 2 ~7d 1Ns 2nk\nO 9I C ^ o 2 1NE ~bb 2 ~59\nO 9I C q Z5 Za 21I\nO 9I C ^\nO 6l D ^ Z k ~9J\nO 9I C ^\nO 9I C ^ o 2 1NE ~bb 1Nr ~9J\nO 9I C ^\nO 9I C ^ o 1 2 ~59\nO 9I C ^ o 1 2 ~59\nO 9I C ^ o 1 2 ~59\nO 9I C ^ o 1 2 ~59\nO 9I C ^ o 2 1NE ~bb 2 ~59\nO 9I C ^ o 1 2 ~59\nO 9I C ^ o 1 2 ~59\nO 9F I k ~59 o 3 2 ~7d 1Ns 2nQ 1Nt 2nR\nO 9F I k ~8P o 2 1Ns 2nO 1Nt 2nP\nO 9F I k ~2n8 o 3 2 ~7d 1Ns 2nM 1Nt 2nN\nO 9F I k ~7d o 1 1Ns 2nL\nO 9F I k ~5j o 1 1Ns 2nK\nO 9F I k $ qr 1 2kL o 1 1Ns 2nJ\nO 9I C ^\nO 9I C ^ o 1 1NE ~bb\nO bz C ^ F 2nI a 5 1LQ ~59 1 ~59 1MO ~59 2 ~7d RL ~9J\nO 6l D ^ I k ~9J\nO 6l D ^ I k ~7d\nO 9I C q Z5 Z8 1wi\nO 9I C q Z5 Z8 2kF o 1 2 ~59\nO 9I C q Z5 Z8 21I o 1 2 ~59\nO 9I C q Z5 Z8 2kD o 1 2 ~59\nO 9I C q Z5 Z8 2kC\nO 9I C q Z5 Z8 2kC o 1 2 ~59\nO 9I C q Z5 Z8 21L o 1 2 ~59\nO 9I C q Z5 Z8 21L o 1 2 ~59\nO 9I C q Z5 Z8 11W\nO 9I C q Z5 Z8 11W\nO kA a 2 11W ~59 NL ~59\nO 8N a 9 11W ~59 1M1 2nS 1M2 ~59 1M3 ~7d 1M4 ~7d 1M5 ~8O 1M6 ~8P 1M7 ~59 1M8 ~8P\nT 5k P = XV 1 8r 4 2nU 8r 8s 5l C o 2Z a 3 1LQ ~59 1M0 2p4 2 ~7d o 1 2 ~7d\nT 5k P = XN 1 2nU 5 2nV 2nU 8r 8s 5l C o 2Z a 2 1LQ ~59 2 ~7d o 1 2 ~7d\nT 5k P = qQ 1 2nU 5 2nW 2nU 8r 8s 5l C o 2Z a 2 1LQ ~59 2 ~7d o 1 2 ~7d\nT 5k P = XK 1 2nU 5 2nX 2nU 8r 8s 5l C o 2Z a 2 1LQ ~59 2 ~7d o 1 2 ~7d\nT 5k P = YR 1 5l 2 2nY 5l C ^ a E 1LQ ~59 XV 2nU XN 2nV qQ 2nW XK 2nX Y3 2ou Ya 2ov Y0 2ow Y2 2ox VH 2oy XS 2oz XR 2oA ly 2oB XO 2oC XY 2oD XM 2oE XP 2oF XL 2oG uX 2oH XQ 2oI de 2oJ XT 2oK XX 2oL XW 2oM XZ 2oN 5z 2oO Y4 2oP Y7 2oQ Y9 2oR Y1 2oS Yc 2oT Yd 2oU Y6 2oV Y8 2oW Ye 2oX Yb 2oY 2kM 2oZ 1L3 2p0 1M0 2p1 2 ~7d o 1 2 ~7d\nT 5k P = XU 1 2n7 3 2nZ 2n7 5l C o 2Z a 5 1LQ ~59 2kN ~7d 2kA 2oq 1wi 2or 2 ~7d o 1 2 ~7d\nT 5k P = 6l 1 2nY 3 2o0 2nY 5l C ^ a 8 1LQ ~59 XU 2nZ 1L2 2ol Y6 2om Ye 2on Y8 2oo Y5 2op 2 ~7d o 1 2 ~7d\nT 5k P = YS 1 2n7 3 2o1 2n7 5l C ^ a 4 1LQ ~59 2kN ~59 2kA 2oj 2 ~7d o 1 2 ~7d\nT 5k P = YT 1 2n7 3 2o2 2n7 5l C ^ a 5 1LQ ~59 2kN ~59 2kA 2of 1wi 2og 2 ~7d o 1 2 ~7d\nT 5k P = YU 1 2n7 3 2o3 2n7 5l C ^ a 4 1LQ ~59 2kN ~59 2kA 2od 2 ~7d o 1 2 ~7d\nT 5k P = YV 1 2nY 3 2o4 2nY 5l C ^ a 4 1LQ ~59 1TQ ~59 XU 2o1 2 ~7d o 1 2 ~7d\nT 5k P = YW 1 2nY 3 2o5 2nY 5l C ^ a 4 1LQ ~59 1TQ ~59 XU 2o2 2 ~7d o 1 2 ~7d\nT 5k P = YX 1 2nY 3 2o6 2nY 5l C ^ a 5 1LQ ~59 1TQ ~59 XU 2o3 2kM 2oc 2 ~7d o 1 2 ~7d\nO 2o0 a 2 YZ ~2o4 2kO ~7d\nO 9I C ^\nO 9I C ^\nO 9I C ^\nO 9I C ^\nO 9I C ^\nO bz C ^ F 2oe a 5 1LQ ~59 1 ~59 1MO ~59 2 ~7d RL ~9J\nO 9I C q YQ YU 2kA\nO bz C ^ F 2oi a 5 1LQ ~59 1 ~59 1MO ~59 2 ~7d RL ~9J\nO bz C ^ F 2oh a 5 1LQ ~59 1 ~59 1MO ~59 2 ~7d RL ~9J\nO 9I C q YQ YT 1wi\nO 9I C q YQ YT 2kA\nO bz C ^ F 2ok a 5 1LQ ~59 1 ~59 1MO ~59 2 ~7d RL ~9J\nO 9I C q YQ YS 2kA\nO 9I C ^\nO 9I C ^ o 2 1NB ~bb 1NE ~bb\nO 9I C ^ o 1 1NE ~bb\nO 9I C ^ o 1 1NE ~bb\nO 9I C ^\nO bz C ^ F 2ot a 5 1LQ ~59 1 ~59 1MO ~59 2 ~7d RL ~9J\nO bz C ^ F 2os a 5 1LQ ~59 1 ~59 1MO ~59 2 ~7d RL ~9J\nO 9I C q YQ XU 1wi\nO 9I C q YQ XU 2kA\nO bz C q Z5 - Y3 F 2n3 a 5 1LQ ~59 1 ~59 1MO ~59 2 ~59 RL ~9J\nO bz C q Z5 - Ya F 2n5 a 5 1LQ ~59 1 ~59 1MO ~59 2 ~59 RL ~9J\nO bz C q Z5 - Y0 F 2n4 a 5 1LQ ~59 1 ~59 1MO ~59 2 ~59 RL ~9J\nO 9I C ^ o 1 2 ~59\nO 9I C ^ o 1 2 ~59\nO 9I C ^ o 2 1NE ~bb 2 ~59\nO 9I C ^ o 1 2 ~59\nO 9I C ^ o 1 2 ~59\nO 9I C ^ o 2 1NE ~bb 2 ~59\nO 9I C ^ o 2 1NE ~bb 2 ~59\nO 9I C ^ o 2 1NE ~bb 2 ~59\nO 9I C ^ o 1 2 ~59\nO 9I C ^ o 2 1NE ~bb 2 ~59\nO 9I C ^ o 2 1NE ~bb 2 ~59\nO 9I C ^ o 2 1NE ~bb 2 ~59\nO 9I C ^ o 1 2 ~59\nO 9I C ^ o 2 1NE ~bb 2 ~59\nO 9I C ^ o 1 2 ~59\nO 9I C ^ o 1 2 ~59\nO 9I C ^ o 2 2 ~59 1Nr ~9J\nO 9I C ^ o 2 2 ~59 1Nr ~9J\nO 9I C ^ o 1 2 ~59\nO 9I C ^ o 1 2 ~59\nO 9I C ^ o 2 1NE ~bb 2 ~59\nO 9I C ^ o 1 2 ~59\nO 9I C ^ o 1 2 ~59\nO 9I C ^ o 1 2 ~59\nO 9I C ^ o 1 1NE ~bb\nO 9I C ^ o 1 1NE ~bb\nO 9I C ^ o 1 1NE ~bb\nO 9F I k 32 o 2 1Ns 2p2 1Nt 2p3\nO 9I C ^\nO 6l D ^ I k ~9J\nO 6l D ^ I k ~7d\nO 9I C q YQ YR Yb o 1 2 ~59\nO 9I C q YQ YR Yb\nO 6l D ^\nO kA a 2 11W ~59 NL ~59\nO 8N a 9 11W ~59 1M1 2p5 1M2 ~59 1M3 ~7d 1M4 ~7d 1M5 ~8O 1M6 ~8P 1M7 ~59 1M8 ~8P\nO 9I C ^ o 1 1NE ~bb\nO 9I C ^\nO 9I C ^ o 1 2 ~59\nO 9I C ^ o 1 2 ~59\nO 9I C ^ o 1 2 ~59\nT 5k P = Yv 1 5l 2 2pc 5l C ^ a o 1LQ ~59 2kP ~7d 1L2 2pV 1Po 2pW 2kB 2pX 2kQ 2pY 2kR 2pZ 2kS 2q0 1PW 2q1 1OX 2q2 1P5 2q3 In 2q4 eD 2q5 2kT 2q6 1YA 2q7 2kU 2q8 2kV 2q9 26e 2qa 1lu 2qb 1P8 2qc 1P9 2qd 1L3 2qe 1M0 2qf 2 ~7d o 1 2 ~7d\nT 5k P = Yw 1 2pc 3 2pd 2pc 5l C ^ a a 1LQ ~59 2 ~59 2kW 2pP 2kX 25w 2kY 25s 2kZ 2pQ 2l0 2pR 2l1 2pS 2l2 2pT 2l3 2pU\nT 5k P = Yx 1 5l 2 2pe 5l C ^ a b 1LQ ~59 2 ~59 1L2 2pE 26v 2pF eD 2pG 2l4 2pH 2l5 2pI 1P8 2pJ 1P9 2pK 1L3 2pL 1M0 2pM\nO 9I C ^ o 2 1NE ~bb 2 ~59\nO 9I C ^ o 2 1NE ~bb 2 ~59\nT 5k P = Yz 1 5l 2 2ph 5l C ^ a 7 1LQ ~59 2 ~59 1L2 2pz 26v 2pA eD 2pB 1L3 2pC 1M0 2pD\nO 9I C ^ o 1 2 ~59\nO 9I C ^\nO 9I C ^\nT 5k P = YH 1 5l 2 2pl 5l C ^ a 7 1LQ ~59 1L2 2pu 1YA 2pv 26e 2pw 1L3 2px 1M0 2py 2 ~7d o 1 2 ~7d\nO 9I C ^\nO 9I C ^\nT 5k P = YK 1 2pe 3 2po 2pe 5l C ^ a 3 1LQ ~59 26v 2pt 2 ~7d o 1 2 ~7d\nO 9I C ^\nO 9I C ^ o 2 1NE ~bb 2 ~59\nO 9I C ^\nO 9I C ^\nO 9I C ^\nO 9I C ^\nO 9I C ^\nO 9I C ^\nO 6l D ^\nO 6l D ^\nO 9I C ^ o 1 1NE ~bb\nO 9I C ^\nO 9I C ^\nO 6l D ^\nO 6l D ^\nO 9I C ^ o 1 1NE ~bb\nO 9I C ^ o 1 2 ~59\nO 9I C ^ o 1 2 ~59\nO 9F o 2 2 ~7d 1Ns 2pO\nO 9F o 2 2 ~7d 1Ns 2pN\nO 9I C ^\nO 9I C ^\nO 6l D ^\nO 6l D ^\nO 9I C q Yj Yx 2l5\nO 9I C q Yj Yx 2l4\nO 9I C ^ o 1 1NE ~bb\nO 9I C ^ o 1 1NE ~bb\nO 9I C ^ o 1 1NE ~bb\nO 9I C ^\nO 9I C ^ o 1 1NE ~bb\nO 9I C ^\nO 9I C ^ o 1 1NE ~bb\nO 9I C ^\nO 9I C ^\nO 9I C ^\nO 9I C ^\nO 9I C ^\nO 9F o 1 1Ns 2qi\nO 9F o 1 1Ns 2qh\nO 9F o 1 1Ns 2qg\nO 9I C ^ o 1 2 ~59\nO 9I C ^ o 1 2 ~59\nO 9I C ^ o 2 1NE ~bb 2 ~59\nO 9I C ^ o 1 2 ~59\nO 9I C ^ o 2 1NE ~bb 2 ~59\nO 9I C ^ o 2 1NE ~bb 2 ~59\nO 9I C ^ o 1 2 ~59\nO 9I C ^ o 2 1NE ~bb 2 ~59\nO 9I C ^\nO 9I C ^\nO 6l D ^\nO 6l D ^\nO 9I C q Yj Yv 1P5 o 1 2 ~59\nO 9I C q Yj Yv 1OX o 1 2 ~59\nO 9I C q Yj Yv 1PW o 1 2 ~59\nO kA a 2 11W ~59 NL ~59\nO 8N a 9 11W ~59 1M1 2qj 1M2 ~59 1M3 ~7d 1M4 ~8O 1M5 ~8O 1M6 ~8P 1M7 ~59 1M8 ~8P\nO WO C q YQ YR 5z F 2oO S 2o7\nO WO C q YQ YR XL F 2oG S 2o7\nO WO C q YQ YR XM F 2oE S 2o7\nO WO C q YQ YR XO F 2oC S 2o7\nO WO C q YQ YR XP F 2oF S 2o7\nO WO C q YQ YR XQ F 2oI S 2o7\nO WO C q YQ YR XR F 2oA S 2o7\nO WO C q YQ YR VH F 2oy S 2o7\nO WO C q YQ YR XS F 2oz S 2o7\nO WO C q YQ YR XT F 2oK S 2o7\nO WO C q YQ YR uX F 2oH S 2o7\nO WO C q YQ YR ly F 2oB S 2o7\nO WO C q YQ YR XW F 2oM S 2o7\nO WO C q YQ YR XX F 2oL S 2o7\nO WO C q YQ YR XY F 2oD S 2o7\nO WO C q YQ YR de F 2oJ S 2o7\nO WO C q YQ YR XZ F 2oN S 2o7\nO WO C q YQ YR Y1 F 2oS S 2o7\nO WO C q YQ YR Y2 F 2ox S 2o7\nO WO C q YQ YR Y4 F 2oP S 2o7\nO WO C q YQ 6l Y5 F 2op S 2o7 o 1 2 ~7d\nO WO C q YQ 6l Y6 F 2om S 2o7 o 1 2 ~7d\nO WO C q YQ YR Y7 F 2oQ S 2o7\nO WO C q YQ 6l Y8 F 2oo S 2o7 o 1 2 ~7d\nO WO C q YQ YR Y9 F 2oR S 2o7\nO WO C q YQ YR Yc F 2oT S 2o7\nO WO C q YQ YR Yd F 2oU S 2o7\nO WO C q YQ 6l Ye F 2on S 2o7 o 1 2 ~7d\nO kA a 2 11W ~59 NL ~59\nO 8N a 9 11W ~59 1M1 2qN 1M2 ~59 1M3 ~7d 1M4 ~7d 1M5 ~8O 1M6 ~8P 1M7 ~59 1M8 ~8P\nT 5k P = Xt 1 5l 2 2qP 5l C ^ a d 1LQ ~59 2 ~59 1L2 2qY Xx 2qZ Xu 2r0 Xv 2r1 Xw 2r2 13k 2r3 2l6 2r4 2l7 2r5 2l8 2r6 1L3 2r7 1M0 2r8\nO 9I C ^ o 2 1NE ~bb 2 ~59\nO 9I C ^ o 2 1NE ~bb 2 ~59\nO 9I C ^ o 2 1NE ~bb 2 ~59\nO 9I C ^ o 2 1NE ~bb 2 ~59\nO 9I C ^ o 1 1NE ~bb\nO 9I C ^\nO 9I C ^\nO 9I C ^\nO 9I C ^ o 1 1NE ~bb\nO 9I C ^ o 2 1NE ~bb 2 ~59\nO 9I C ^ o 2 1NE ~bb 2 ~59\nO 9I C ^ o 2 1NE ~bb 2 ~59\nO 9I C ^ o 2 1NE ~bb 2 ~59\nO 9I C ^ o 2 1NE ~bb 2 ~59\nO 9I C ^ o 2 1NE ~bb 2 ~59\nO 9I C ^ o 2 1NE ~bb 2 ~59\nO b0 F 2r9 a 5 1LQ ~59 1 ~59 1MO ~59 2 ~7d RL ~9J\nO 6l D ^\nO 6l D ^\nO 9I C q Xn Xt 2l8\nO 8N a 9 11W ~59 1M1 5a 1M2 ~59 1M3 ~7d 1M4 ~7d 1M5 ~8O 1M6 ~8P 1M7 ~7d 1M8 ~8P o 1 1M9 ~7d\nO 7c C ^ S 2V\nO 7c C ^ S 2V\nO 7c C ^ S 2V\nO 7c C ^ S 2V\nO 7c C ^ S 2V\nO 7c C ^ S 2V\nO 7c C ^ S 2V\nO 7c C ^ S 2V\nO 7c C ^ S 2V\nO 7c C ^ S 2V\nO 7c C ^ S 2V\nO 7c C ^ S 2V\nO 7c C ^ S 2V\nO 7c C ^ S 2V\nO 7c C ^ S 2V\nO 7c C ^ S 2V\nO 7c C ^ S 2V\nO 7c C ^ S 2V\nO 7c C ^ S 2V\nO 7c C ^ S 2V\nO 7c C ^ S 2V\nO 7c C ^ S 2V\nO 7c C ^ S 2V\nO 7c C ^ S 2V\nO 7c C ^ S 2V\nO 7c C ^ S 2V\nO 7c C ^ S 2V\nO 7c C ^ S 2V\nO 7c C ^ S 2V\nO 7c C ^ S 2V\nO 7c C ^ S 2V\nO 7c C ^ S 2V\nO 7c C ^ S 2V\nO 7c C ^ S 2V\nO 7c C ^ S 2V\nO 7c C ^ S 2V\nO 7c C ^ S 2V\nO 7c C ^ S 2V\nO 7c C ^ S 2V\nO 7c C ^ S 2V\nO 7c C ^ S 2V\nO 8N a 9 11W ~59 1M1 5a 1M2 ~59 1M3 ~7d 1M4 ~7d 1M5 ~8O 1M6 ~8P 1M7 ~7d 1M8 ~8P o 1 1M9 ~7d\nO 7c C ^ S 2U\nO 7c C ^ S 2U\nO kA a 2 11W ~59 NL ~59\nO 8N a 9 11W ~59 1M1 2rT 1M2 ~59 1M3 ~7d 1M4 ~7d 1M5 ~8O 1M6 ~8P 1M7 ~59 1M8 ~8P\nO 7c C ^ S q\nT 5k P = bO 1 8r 4 2rW 8r 8s 5l C ^ a 3 2 ~59 1LQ ~59 1M0 2sA\nT 5k P 2l9 bP 1 5l 2 2rX 5l C ^ a 6 1KX 2sw 1L2 2sx rl 2sy 1OO 2sz 2 ~59 1LQ ~59\nT 5k P 2la bQ 1 5l 2 2rY 5l C ^ a 9 1KX 2sp 1L2 2sq rm 2sr 2lb 2ss 2lc 2st 2ld 2su 2le 2sv 2 ~59 1LQ ~59 o 1 1L4 ~59\nO 7c C ^ S q\nO 7c C ^ S q\nT hS P = WO 1 2s5 7 2s1 2s5 hT hU hV hW 5l C ^ a i 1LQ ~59 2 ~59 1L2 2s6 eD 2s7 1PW 2s8 In 2s9 1P2 2sa 1OX 2sb 1P5 2sc 1OW 2sd 13k 2se 1OZ 2sf 1OV 2sg 13o 2sh 1OQ 2si 1OP 2sj 1MQ ~i2 1P3 ~i3\nO 9I C ^ o 3 1NE ~bb 2 ~59 1Nr ~9J\nO 9I C ^ o 2 1NE ~bb 2 ~59\nO 9I C ^ o 2 1NE ~bb 2 ~59\nT hS P = 4N 1 hT 6 2s5 hT hU hV hW 5l C ^ a 8 1LQ ~59 2 ~59 2lf 2sl 2lg 2sm 2lh 2sn 2li 2so 1MQ ~i2 1P3 ~i3\nO 9I C ^ o 3 1NE ~bb 2 ~59 1Nr ~9J\nO 9I C ^ o 1 2 ~59\nO 9F o 1 1Ns 2sk\nO 9I C ^ o 1 2 ~59\nO 9I C ^ o 1 2 ~59\nO 9I C ^ o 1 2 ~59\nO 9I C ^ o 1 2 ~59\nO 9I C ^ o 2 1NE ~bb 2 ~59\nO 9I C ^ o 2 1NE ~bb 2 ~59\nO 9I C ^ o 2 1NE ~bb 2 ~59\nO 9I C ^ o 2 1NE ~bb 2 ~59\nO 9I C ^ o 1 2 ~59\nO 9I C ^ o 2 1NE ~bb 2 ~59\nO 9I C ^ o 1 2 ~59\nO 9I C q WN WO 1PW o 1 2 ~59\nO 9I C ^\nO 9I C ^\nO 9I C ^\nO 9I C ^\nO 7c C b S 2rY o 1 1LQ ~7d\nO 6R C d D ^\nO 6G C d D ^\nO 6v D ^ o 1 2 ~59\nO 6v D ^ o 1 2 ~59\nO 6v D ^ o 1 2 ~59\nO 6v D ^ o 1 2 ~59\nO 7c C b S 2rX o 1 1LQ ~7d\nO 6R C d D ^\nO 6G C d D ^\nO 6G C d D ^\nO 6l D ^\nO kA a 2 11W ~59 NL ~59\nO 8N a 9 11W ~59 1M1 2sB 1M2 ~59 1M3 ~7d 1M4 ~7d 1M5 ~8O 1M6 ~8P 1M7 ~59 1M8 ~8P\nT 5k P = Wz 1 2u2 6 2sD 2u2 2u3 2t1 1KH 5l C ^ a 8 1LQ ~59 2 ~59 2lj ~7d 2lk ~7d 1L2 2ur 1ZI 2us 2ll 2ut 1YU 2uu\nT 5k P = WA 1 2sD 7 2sE 2sD 2u2 2u3 2t1 1KH 5l C ^ a 5 1LQ ~59 2 ~59 1L2 2uo 2lm 2up 2ln 2uq\nT 5k P = WB 1 2sD 7 2sF 2sD 2u2 2u3 2t1 1KH 5l C ^ a 7 1LQ ~59 2 ~59 1L2 2uj 2lo 2uk 2ln 2ul 2lp 2um 2lm 2un\nT 5k P = WC 1 2u2 6 2sG 2u2 2u3 2t1 1KH 5l C ^ a 6 1LQ ~59 2 ~59 1L2 2u4 2lq 2u5 2lr 2u6 1ZI 2u7\nT 5k P = WD 1 2t1 4 2sH 2t1 1KH 5l C ^ a a 1LQ ~59 2 ~59 1L2 2tU 2ls 2tV 2lt 2tW 1YA 2tX 2lu 2tY 2lv 2tZ 1ZI 2u0 eD 2u1\nT 5k P = WE 1 2sH 5 2sI 2sH 2t1 1KH 5l C ^ a 5 1LQ ~59 2 ~59 1L2 2tR 2ls 2tS 1YA 2tT\nT 5k P = WF 1 2t1 4 2sJ 2t1 1KH 5l C ^ a K 1LQ ~59 2 ~59 2lw ~5j 2lx ~5j 2ly ~5j 2lz ~5j 2lA ~5j 2lB ~5j 2lC ~5j 2lD ~5j 2lE ~5j 2lF ~5j 2lG ~5j 2lH ~5j 2lI ~5j 2lJ ~5j 2lK ~5j 2lL ~5j 2lM ~5j 2lN ~5j 2lO ~5j 2lP ~5j 2lQ ~5j 2lR ~5j 2lS ~5j 2lT ~5j 2lU ~5j 2lV ~5j 2lW ~5j 2lX ~5j 2lY ~5j 2lZ ~5j 2m0 ~5j 2m1 ~5j 2m2 ~9J 2m3 ~9J 2m4 ~9J 1L2 2tK 2m5 2tL 2lt 2tM 2m6 2tN eD 2tO 2m7 2tP 21I ~59 2m8 ~8P 1ZI 2tQ\nT 5k P = WG 1 2t1 4 2sK 2t1 1KH 5l C ^ a 5 1LQ ~59 2 ~59 1L2 2tH 2m9 2tI 1ZI 2tJ\nT 5k P = WH 1 2t1 4 2sL 2t1 1KH 5l C ^ a 8 1LQ ~59 2 ~59 1L2 2tB 2ma 2tC 2mb 2tD 2mc 2tE 1ZI 2tF eD 2tG\nT 5k P = WI 1 2t1 4 2sM 2t1 1KH 5l C ^ a 6 1LQ ~59 2 ~59 1L2 2tx 2md 2ty 2me 2tz 1ZI 2tA\nT 5k P = WJ 1 2t1 4 2sN 2t1 1KH 5l C ^ a 7 1LQ ~59 2 ~59 1L2 2ts 2mf 2tt 1ZI 2tu 1OO 2tv eD 2tw\nT 5k P = WK 1 2sN 5 2sO 2sN 2t1 1KH 5l C ^ a 7 1LQ ~59 2 ~59 1L2 2tn 2mf 2to 2mg 2tp 1OO 2tq eD 2tr\nT 5k P = WL 1 2t1 4 2sP 2t1 1KH 5l C ^ a 6 1LQ ~59 2 ~59 1L2 2t2 2mh 2t3 2mi 2t4 1ZI 2t5\nT 5k P = WM 1 5l 2 2sQ 5l C ^ a d 1LQ ~59 2 ~59 PO ~7d 1L2 2sR 2mj 2sS 1Rr 2sT 2mi 2sU 25Z 2sV 2mk 2sW 2ml 2sX 2mm 2sY 1L3 2sZ 1M0 2t0\nO 9I C ^ o 2 2 ~59 1Nr ~9J\nO 9I C ^ o 1 2 ~59\nO 9I C ^ o 1 2 ~59\nO 9I C ^ o 1 2 ~59\nO 9I C ^ o 1 2 ~59\nO 9I C ^ o 1 2 ~59\nO 9I C ^ o 1 2 ~59\nO 9I C ^ o 1 2 ~59\nO 6l D ^\nO 6l D ^\nT 5k P = Sm 1 1KH 3 2t1 1KH 5l C ^ a j 1LQ ~59 2 ~59 1L2 2t6 2mn 2t7 2mo 2t8 11W 2t9 2mp 2ta 21c 2tb 217 2tc 1ah 2td 2at 2te p9 2tf 1ZI 2tg 25Z 2th 2mq 2ti 1OO 2tj eD 2tk 2lv 2tl 1KY 2tm\nO 9I C ^ o 1 2 ~59\nO 9I C ^ o 1 2 ~59\nO 9I C ^ o 1 2 ~59\nO 9I C ^ o 1 2 ~59\nO 9I C ^ o 2 1NE ~bb 2 ~59\nO 9I C ^\nO 9I C ^\nO 9F I k ~7d o 3 2 ~7d 1Ns 2t7 1Nt 2t8\nO 9I C ^ o 1 2 ~59\nO 9I C ^\nO 9I C ^ o 1 2 ~59\nO 9I C ^ o 1 2 ~59\nO 9I C ^ o 1 2 ~59\nO 9I C ^ o 1 2 ~59\nO 9I C ^ o 1 2 ~59\nO 9I C ^ o 1 2 ~59\nO 9I C ^ o 1 2 ~59\nO 9I C ^ o 1 2 ~59\nO 9I C ^ o 1 2 ~59\nO 9I C ^ o 1 2 ~59\nO 9I C ^\nO 9I C ^ o 2 1NE ~bb 2 ~59\nO 9I C ^ o 1 2 ~59\nO 9I C ^ o 1 2 ~59\nO 9I C ^ o 1 2 ~59\nO 9I C ^ o 1 2 ~59\nO 9I C ^ o 1 2 ~59\nO 9I C ^ o 1 2 ~59\nO 9I C ^ o 1 2 ~59\nO 9I C ^ o 1 2 ~59\nO 9I C ^ o 1 2 ~59\nO 9I C ^ o 2 1NE ~bb 2 ~59\nO 9I C ^ o 1 2 ~59\nO 9I C ^ o 1 2 ~59\nO 9I C ^ o 1 2 ~59\nO 9I C ^ o 1 1NE ~bb\nO 9I C ^ o 1 2 ~59\nO 9I C ^ o 1 2 ~59\nO 9I C ^ o 1 2 ~59\nO 9I C ^ o 1 2 ~59\nO 9I C ^ o 1 2 ~59\nO 9I C ^ o 2 1NE ~bb 2 ~59\nO 9I C ^ o 1 2 ~59\nO 9I C ^ o 1 2 ~59\nO 9I C ^ o 2 1NE ~bb 2 ~59\nO 9I C ^\nO 9I C ^ o 1 2 ~59\nO 9I C ^ o 1 2 ~59\nO 9I C ^ o 1 2 ~59\nO 9I C ^ o 1 2 ~59\nO 9I C ^ o 1 2 ~59\nO 9I C ^ o 1 2 ~59\nO 9I C ^ o 1 2 ~59\nO 9I C ^ o 1 2 ~59\nO 9I C ^ o 1 2 ~59\nO 9I C ^ o 2 1NE ~bb 2 ~59\nO 9I C ^ o 1 2 ~59\nO 9I C ^ o 1 2 ~59\nO 9I C ^ o 1 2 ~59\nO 9I C ^ o 1 2 ~59\nO 9I C ^ o 1 2 ~59\nO 9I C ^ o 1 2 ~59\nT 5k P = VA 1 2u3 5 2u2 2u3 2t1 1KH 5l C ^ a 7 1LQ ~59 2 ~59 1L2 2ue eD 2uf 2mr 2ug 1ZI 2uh 1KY 2ui\nT 5k P = Vz 1 2t1 4 2u3 2t1 1KH 5l C ^ a 9 1LQ ~59 2 ~59 2ms ~59 1L2 2u8 1OO 2u9 1ZI 2ua 2mt 2ub 1KY 2uc 1Nq 2ud\nO 9I C ^ o 1 1NE ~bb\nO 9I C ^\nO 9I C ^ o 1 2 ~59\nO 9I C ^ o 1 2 ~59\nO 9I C ^ o 2 1NE ~bb 2 ~59\nO 9I C ^ o 1 2 ~59\nO 9I C ^ o 1 2 ~59\nO 9I C ^ o 1 2 ~59\nO 9I C ^\nO b0 F Aj a 4 1LQ ~59 1 ~59 1MO ~59 2 ~59\nO 9I C ^ o 2 1NE ~bb 2 ~59\nO 9I C ^ o 1 2 ~59\nO 9I C ^ o 1 2 ~59\nO 9I C ^ o 1 2 ~59\nO 9I C ^\nO 9I C ^ o 1 1NE ~bb\nO 9I C ^ o 1 2 ~59\nO 9I C ^ o 1 2 ~59\nO 9I C ^ o 1 2 ~59\nO 9I C ^ o 1 2 ~59\nO 9I C ^ o 2 1NE ~bb 2 ~59\nO 9I C ^ o 1 2 ~59\nO 9I C ^ o 1 2 ~59\nO 9I C ^ o 2 1NE ~bb 2 ~59\nO 9I C ^ o 1 2 ~59\nO 9I C ^ o 1 2 ~59\nO 9I C ^ o 1 2 ~59\nO kA a 2 11W ~59 NL ~59\nO 8N a 9 11W ~59 1M1 2uv 1M2 ~59 1M3 ~7d 1M4 ~7d 1M5 ~8O 1M6 ~8P 1M7 ~59 1M8 ~8P\nO 9I C ^ o 2 1NE ~bb 2 ~59\nO 9I C ^ o 1 2 ~59\nO 9I C ^\nO 9I C ^ o 1 2 ~59\nO 9I C ^ o 1 2 ~59\nO 9I C ^ o 1 2 ~59\nO 9I C ^ o 1 2 ~59\nO 9I C ^ o 1 2 ~59\nO 9I C ^\nT 5k P = Wh 1 5l 2 2uG 5l C ^ a 6 1LQ ~59 2 ~59 2mu 2vk 2mv 2vl 1L3 2vm 1M0 2vn\nT 5k P = Wi 1 9J 4 2uH 9J 2uG 5l C ^ a 7 1LQ ~59 2 ~59 11d 2vf 1NF 2vg 1Nn 2vh 1L3 2vi 1M0 2vj\nT 5k P = Wj 1 8O 4 2uI 8O 2uG 5l C ^ a 6 1LQ ~59 2 ~59 11d 2vb 1Nn 2vc 1L3 2vd 1M0 2ve\nT 5k P = Wk 1 bb 4 2uJ bb 2uG 5l C ^ a 4 1LQ ~59 2 ~59 11d 2v9 1L3 2va\nT 5k P = Wl 1 5l 2 2uK 5l C ^ a i 1LQ ~59 2 ~59 2mw ~oB 2mx ~oB 2my ~oB 2mz ~oB 2mA ~oB 2mB ~9J 2mC 2uY 1L2 2uZ NW 2v0 2mD 2v1 2mE 2v2 2mv 2v3 2mF 2v4 25d 2v5 1L3 2v6 1M0 2v7\nT 5k P = Wm 1 2uK 3 2uL 2uK 5l C ^ a b 1LQ ~59 2 ~59 2mG 2uP 2mH 2uQ 2mI 2uR 2mJ 2uS 2mK 2uT 2mL 2uU 2mM 2uV 2mN 2uW 2mO 2uX\nO 9I C ^ o 1 2 ~59\nO 9I C ^ o 2 1NE ~bb 2 ~59\nO 9I C ^ o 1 2 ~59\nO 9I C ^ o 1 2 ~59\nO 9I C ^ o 1 2 ~59\nO 9I C ^ o 1 2 ~59\nO 9I C ^ o 1 2 ~59\nO 9I C ^ o 1 2 ~59\nO 9I C ^ o 1 2 ~59\nO 9I C ^ o 2 1NE ~bb 2 ~59\nO 9I C ^ o 2 1NE ~bb 2 ~59\nO 9I C ^ o 2 1NE ~bb 2 ~59\nO bz C q oV - 7v F 2v8 a 4 1LQ ~59 1 ~59 1MO ~59 2 ~59\nO 9I C ^\nO 9I C ^ o 1 2 ~59\nO 9I C ^ o 1 2 ~59\nO 9I C ^ o 1 2 ~59\nO 9I C ^ o 1 2 ~59\nO 9I C ^ o 1 2 ~59\nO 9I C ^ o 1 2 ~59\nO 6l D ^\nO 6l D ^\nO 7c C ^ S X\nO 9I C ^\nO 6l D ^\nO 9I C ^\nO 9I C ^ o 1 1NE ~bb\nO 6l D ^\nO 6l D ^\nO 9I C ^\nO 9I C ^ o 1 1NE ~bb\nO 9I C ^ o 1 1NE ~bb\nO 6l D ^\nO 6l D ^\nO 9I C ^ o 1 1NE ~bb\nO 9I C ^\nO 6l D ^\nO 6l D ^\nO kA a 2 11W ~59 NL ~59\nO 8N a 9 11W ~59 1M1 2vo 1M2 ~59 1M3 ~7d 1M4 ~8O 1M5 ~8O 1M6 ~8P 1M7 ~59 1M8 ~8P\nO 9I C ^\nO 9I C ^ o 1 2 ~59\nO 9I C ^ o 1 2 ~59\nO 9I C q uy - 1XF\nO 9I C ^ o 1 2 ~59\nO 9I C ^\nO 9I C ^ o 1 2 ~59\nO 9I C ^ o 1 2 ~59\nO zc a 4 1Rq ~ns 21s 2xm 21t ~8O 21u ~ns o 1 1M0 ~z7\nO 9I C ^\nO 9I C ^\nT 5k P = Vf 1 5l 2 2vB 5l C ^ a 7 1LQ ~59 2 ~59 1L2 2xh 1KY 2xi 1QL 2xj 1L3 2xk 1M0 2xl\nO 9I C ^ o 1 2 ~59\nO 9I C ^ o 1 2 ~59\nO 9I C ^ o 1 2 ~59\nT 5k P = Vl 1 5l 2 2vF 5l C ^ a d 1LQ ~59 2mP ~59 2mQ ~59 2mR ~59 2mS ~oB 1L2 2xa 2mT 2xb 1RV 2xc Up 2xd p9 2xe 1L3 2xf 1M0 2xg 2 ~7d o 1 2 ~7d\nT 5k P = Vm 1 2vF 3 2vG 2vF 5l C ^ a 9 1LQ ~59 2mP ~59 2mQ ~59 2mR ~59 2mU ~oB 2mV ~oB Up 2x8 1RV 2x9 2 ~7d o 1 2 ~7d\nT 5k P = Vn 1 2vF 3 2vH 2vF 5l C ^ a 9 1LQ ~59 2mP ~59 2mQ ~59 2mR ~59 1L2 2x4 2mT 2x5 1RV 2x6 Up 2x7 2 ~7d o 1 2 ~7d\nT 5k P = Vq 1 5l 2 2vI 5l C ^ a e 1LQ ~59 2 ~59 2mW 174 1L2 2wV 2mX ~59 2mY ~59 2mZ 2wW 2n0 2wX 2mT 2wY 2n1 2wZ 2n2 2x0 p9 2x1 1L3 2x2 1M0 2x3\nO 2vI a 3 2n3 2wU 2n4 ~59 2n5 ~7d\nT 5k P = Vs 1 5l 2 2vK 5l C ^ a 8 1LQ ~59 2 ~59 1L2 2wO 2n6 2wP 2n7 2wQ p9 2wR 1L3 2wS 1M0 2wT\nT 5k P = Vt 1 5l 2 2vL 5l C ^ a 6 1LQ ~59 2 ~59 1L2 2wK pM 2wL 1L3 2wM 1M0 2wN\nO zf a 4 21s 2wJ 21t ~8O 21u ~ns 1Rq ~9J o 1 1M0 ~z7\nO 9I C ^ o 1 2 ~59\nO 9I C ^ o 1 2 ~59\nT 5k P = VB 1 2u3 5 2vP 2u3 2t1 1KH 5l C ^ a 4 1LQ ~59 2 ~59 1L2 2wG 2n8 2wH\nO 2vP a 6 lK ~8O 1TQ ~7d 2a9 ~5j 2n9 ~7d 26C ~8P 21w ~17H o 1 1M0 ~z7\nT 5k P = VE 1 5l 2 2vR 5l C ^ a 6 1LQ ~59 2 ~59 1L2 2wC 1Nk 2wD 1L3 2wE 1M0 2wF\nO 9I C ^ o 1 2 ~59\nO 9I C ^ o 1 2 ~59\nT 5k P = VL 1 5l 2 2vU 5l C ^ a n 1LQ ~59 2 ~59 1L2 2we ut 2wf VU 2wg VT 2wh VS 2wi lH 2wj eX 2wk VR 2wl VP 2wm sp 2wn 2aB 2wo 2at 2wp 2aA 2wq 2ay 2wr 1cd 2ws 2ac 2wt 11W 2wu 1KY 2wv 1Nq 2ww 1L3 2wx 1M0 2wy\nO 9I C ^ o 1 2 ~59\nO 9I C ^ o 1 2 ~59\nO 9I C ^ o 1 2 ~59\nO 9I C ^ o 1 2 ~59\nO 9I C ^ o 2 2 ~59 1Nr ~9J\nO 9I C ^ o 1 2 ~59\nO 9I C ^\nO 9I C ^ o 1 2 ~59\nO 9I C ^ o 1 2 ~59\nO 9I C ^ o 1 2 ~59\nO 9I C ^ o 2 1NE ~bb 2 ~59\nO 9I C ^ o 2 1NE ~bb 2 ~59\nT 5k P = VW 1 2t1 4 2w7 2t1 1KH 5l C ^ a 6 1LQ ~59 2 ~59 25Z 2wa 1ZI 2wb 2mp 2wc 21c 2wd\nO 9I C ^ o 2 1NE ~bb 2 ~59\nO 9I C ^ o 1 2 ~59\nO 9I C ^ o 1 2 ~59\nO 9I C ^ o 1 2 ~59\nO 9I C ^\nO 9I C ^\nO 9I C ^ o 2 1NE ~bb 2 ~59\nO 9I C ^ o 1 2 ~59\nO 9I C ^ o 1 2 ~59\nO 9I C ^ o 1 2 ~59\nO 9I C ^ o 1 2 ~59\nO 9I C ^\nO 9I C ^ o 1 2 ~59\nO 9I C ^ o 2 2 ~59 1Nr ~9J\nO 9I C ^ o 1 2 ~59\nO 9I C ^ o 1 2 ~59\nO 9I C ^ o 1 2 ~59\nO 9I C ^ o 1 2 ~59\nO 9I C ^ o 1 2 ~59\nO 9I C ^ o 1 2 ~59\nO 9I C ^ o 1 2 ~59\nO 9F o 3 2 ~7d 1Ns 2wA 1Nt 2wB\nO 9F o 2 2 ~7d 1Ns 2wz\nO 9I C ^\nO b0 F Aj a 4 1LQ ~59 1 ~59 1MO ~59 2 ~59\nO 6l D ^\nO 6l D ^\nO 9I C q uy VL 11W\nO 9I C q uy VL 2ac\nO 9I C q uy VL 2ac\nO 9I C ^ o 1 2 ~59\nO 9I C ^ o 1 2 ~59\nO 6l D ^\nO 6l D ^\nO 9I C ^ o 2 1NE ~bb 2 ~59\nO 9F I k 18p o 2 2 ~7d 1Ns 2wI\nO 9I C q uy VB 2n8\nO 9I C q uY 2ko 12r o 1 1NE ~bb\nO 9I C ^ o 2 1NE ~bb 2 ~59\nO 9I C ^ o 1 2 ~59\nO 6l D ^\nO 6l D ^\nO 9I C ^ o 2 1NE ~bb 2 ~59\nO 9I C ^ o 1 2 ~59\nO 9I C ^ o 1 2 ~59\nO 9I C ^ o 1 2 ~59\nO 6l D ^\nO 6l D ^\nO 2vF a 2 2n4 ~59 2na ~7d\nO 9I C ^ o 3 1NE ~bb 2 ~59 1Nr ~9J\nO 9I C ^ o 2 1NE ~bb 2 ~59\nO 9I C ^ o 1 2 ~59\nO 9I C ^ o 1 2 ~59\nO 9I C ^\nO 9I C ^ o 1 2 ~59\nO 9I C ^ o 1 2 ~59\nO 6l D ^ I k ~9J\nO 6l D ^ I k ~7d\nO 9I C ^ o 1 1NB ~bb\nO 9I C ^\nO 9I C ^\nO 9I C ^\nO 9I C ^\nO 9I C ^ o 1 2 ~59\nO 9I C ^ o 1 1Nr ~9J\nO 9I C ^\nO 9I C ^ o 1 2 ~59\nO 9I C ^\nO 9I C ^\nO 6l D ^ I k ~9J\nO 6l D ^ I k ~7d\nO 9I C ^ o 2 1NE ~bb 2 ~59\nO 9I C ^\nO 9I C ^ o 1 2 ~59\nO 6l D ^\nO 6l D ^\nO 9I C q lV 22i 21s o 1 1NE ~bb\nO kA a 2 11W ~59 NL ~59\nO 8N a 9 11W ~59 1M1 2xn 1M2 ~59 1M3 ~7d 1M4 ~7d 1M5 ~8O 1M6 ~8P 1M7 ~59 1M8 ~8P\nO 9I C ^ o 1 2 ~59\nO 9I C ^ o 1 2 ~59\nO 9I C ^ o 2 1NE ~bb 2 ~59\nO 9I C q a3 - a5 a 1 1NO 2xE o 1 2 ~59\nO 7c C ^ S p\nO 7c C ^ S p\nO 7c C ^ S p\nO 7c C ^ S p\nO 7c C ^ S p\nO 7c C ^ S p\nO 7c C ^ S p\nO 7c C ^ S p\nO 7c C ^ S p\nO 7c C ^ S p\nT 5k P = 5b 1 8r 4 2xD 8r 8s 5l C o 2P a 3 1LQ ~59 1M0 2y4 2 ~7d o 1 2 ~7d\nO 7c C ^ S p\nO 9I C ^\nO 9I C ^ o 1 1NE ~bb\nO 9I C ^\nO 9I C ^ o 1 1NE ~bb\nO 9I C ^ o 1 1NE ~bb\nO 9I C ^ o 2 1NE ~bb 2 ~59\nO 9I C ^ o 2 1NE ~bb 2 ~59\nO 9I C ^ o 2 1NE ~bb 2 ~59\nO 9I C ^ o 1 2 ~59\nO 9I C ^ o 1 2 ~59\nO 9I C ^ o 2 1NE ~bb 2 ~59\nO 9I C ^ o 2 1NE ~bb 2 ~59\nO 9I C ^ o 1 2 ~59\nO 9I C ^\nO 7c C ^ S p\nO 9I C ^\nO 9I C ^\nO 9I C ^ o 1 2 ~59\nO 9I C ^ o 1 2 ~59\nO 9I C ^ o 1 2 ~59\nO 9I C ^ o 2 1NE ~bb 2 ~59\nO 9I C ^ o 2 1NE ~bb 2 ~59\nO 9I C ^ o 2 1NE ~bb 2 ~59\nO 9I C ^ o 2 1NE ~bb 2 ~59\nO 9I C ^ o 1 2 ~59\nO 6l D ^\nO kA a 2 11W ~59 NL ~59\nO 8N a 9 11W ~59 1M1 2y5 1M2 ~59 1M3 ~7d 1M4 ~7d 1M5 ~8O 1M6 ~8P 1M7 ~59 1M8 ~8P\nO 9I C ^ o 1 2 ~59\nO 9I C ^ o 2 1NE ~bb 2 ~59\nO 9I C ^ o 2 1NE ~bb 2 ~59\nO 9I C ^ o 2 1NE ~bb 2 ~59\nO 9I C ^ o 2 1NE ~bb 2 ~59\nO 9I C ^ o 1 2 ~59\nO kA a 2 11W ~59 NL ~59\nO 8N a 9 11W ~59 1M1 2yd 1M2 ~59 1M3 ~7d 1M4 ~7d 1M5 ~8O 1M6 ~8P 1M7 ~59 1M8 ~8P\nO 7c C q pA pO 11b S ~i2 o 2 1LQ ~7d 1L4 ~7d\nO 7c C q pA pO 11b S ~i2 o 2 1LQ ~7d 1L4 ~7d\nO kA a 2 11W ~59 NL ~59\nO 8N a 9 11W ~59 1M1 2yh 1M2 ~59 1M3 ~7d 1M4 ~7d 1M5 ~8O 1M6 ~8P 1M7 ~59 1M8 ~8P\nT 5k P 2nb 1dy 1 5l 2 2yj 5l C q 9X - 1dy a a 1KX 2yl 10T 2ym 2nc 2yn 2nd 2yo 2ne 2yp 2nf 2yq 2ng 2yr 2nh 2ys 2 ~59 1LQ ~59\nO 9I C ^\nO 7c C b S 2yj o 1 1LQ ~7d\nO 6R C d D ^\nO 6v D ^ I k ~8P o 1 2 ~59\nO 6v D ^ I k ~7d o 1 2 ~59\nO 6v D ^ I k ~7d\nO 6v D ^ I k 17I o 1 2 ~59\nO 6v D ^ I k 5j o 1 2 ~59\nO 6v D ^ I k 2zj o 1 2 ~59\nO kA a 2 11W ~59 NL ~59\nO 8N a 9 11W ~59 1M1 2yt 1M2 ~59 1M3 ~7d 1M4 ~7d 1M5 ~8O 1M6 ~8P 1M7 ~59 1M8 ~8P\nO 7c C ^ S o o 1 1L4 ~7d\nO 7c C ^ S o o 1 1L4 ~7d\nT 5k P 2ni 2nj 1 5l 2 2yx 5l C q 9X - 2nj a c 1KX 2yI 10T 2yJ 2nk 2yK 29X 2yL Tw 2yM 1vI 2yN 2bh 2yO 2nl 2yP 2nm 2yQ 2nn 2yR 2 ~59 1LQ ~59\nO 9I C ^ o 1 2 ~59\nO 9I C ^ o 1 2 ~59\nT 5k P = Tx 1 5l 2 2yA 5l C o 2L a a 1LQ ~59 2 ~59 2nl ~59 2bh ~59 1L2 2yC 29X 2yD 31 2yE to 2yF 1L3 2yG 1M0 2yH\nO 9I C ^ o 1 1NE ~bb\nO 9I C ^ o 2 2 ~59 1Nr ~9J\nO 9I C ^ o 1 2 ~59\nO 9I C ^ o 1 2 ~59\nO 9I C ^ o 2 1NE ~bb 2 ~59\nO 6l D ^ I k ~9J\nO 6l D ^ I k ~7d\nO 7c C b S 2yx o 1 1LQ ~7d\nO 6R C d D ^\nO 6v D ^ o 1 2 ~59\nO 6v D ^ o 1 2 ~59\nO 6v D ^ o 1 2 ~59\nO 6v D ^ o 1 2 ~59\nO 6v D ^ o 1 2 ~59\nO 6v D ^ o 1 2 ~59\nO 6v D ^ o 1 2 ~59\nO 6v D ^ o 1 2 ~59\nO kA a 2 11W ~59 NL ~59\nO 8N a 9 11W ~59 1M1 2yS 1M2 ~59 1M3 ~7d 1M4 ~7d 1M5 ~8O 1M6 ~8P 1M7 ~59 1M8 ~8P\nO 7c C ^ S o o 1 1L4 ~7d\nO 1jk a 2 1Xa ~5j 1Xb ~59\nT 5k P = Tv 1 152 5 2yW 152 8r 8s 5l C o 2K a 5 1LQ ~59 2 ~59 1L2 2z7 1MS 2z8 1M0 2z9\nO 9I C ^\nO 9I C ^ o 2 1NE ~bb 2 ~59\nO 9I C ^ o 1 1NE ~bb\nO 9I C ^ o 1 1NE ~bb\nT 5k P = Tu 1 5l 2 2z1 5l C o 2K a 7 1LQ ~59 2 ~59 1L2 2z2 32 2z3 2no 2z4 1L3 2z5 1M0 2z6\nO 9I C ^ o 2 2 ~59 1Nr ~9J\nO 9I C ^ o 2 1NE ~bb 2 ~59\nO 9I C ^ o 2 1NE ~bb 2 ~59\nO 6l D ^ I k ~9J\nO 6l D ^ I k ~7d\nO 9I C ^\nO 9I C ^\nO 6l D ^\nO kA a 2 11W ~59 NL ~59\nO 8N a 9 11W ~59 1M1 2za 1M2 ~59 1M3 ~7d 1M4 ~8O 1M5 ~8O 1M6 ~8P 1M7 ~59 1M8 ~8P\nO 2yA a 6 2nn ~8P 2np ~8P 2nq ~8P 2nr ~8P 2nm ~8P 1vI ~7d\nO 9I C ^ o 2 2 ~59 1Nr ~9J\nO 9I C ^ o 2 2 ~59 1Nr ~9J\nO 2z1 a b 2nd ~7d 2nf 17I 2ng 5j 2nh 2zj 2nc ~8P 2ne ~7d 2ns 2yZ 1zn 2z0 2nt 2yU 2hP ~9J 2nu 2zk\nO 9I C ^\nO 9I C ^ o 2 2 ~59 1Nr ~9J\nO 9I C ^ o 2 2 ~59 1Nr ~9J\nO 7c C q pA pK 11d S ~9J o 2 1LQ ~7d 1L4 ~7d\nO 2yj C t 2nv\nO 8N a 9 11W ~59 1M1 ~1B5 1M2 ~59 1M3 ~7d 1M4 ~7d 1M5 ~8O 1M6 ~8P 1M7 ~59 1M8 ~8P\nO 2zH a 3 27j 2zI 2nw ~bb 2nx ~59\nT 5k P = RF 1 5l 2 2zn 5l C o 2H a l 1LQ ~59 RL ~9J 2 ~59 AT ~59 26O ~59 2ny ~59 2nz ~59 VS ~59 eX ~59 2nA ~59 1L3 2zy 1M0 2zz 29u ~1I5 29v ~9J 1L2 2zA 1KY 2zB 10L 2zC 1L0 2zD 1L1 2zE 1L5 2zF 1Xp ~bb\nO LK C q 1Ay - To a 8 1cB ~8P 1TQ ~7d 1Wx Ln 1On ~7d 1Wy ~bb 1WA ~bb 1ZN ~8P 1LQ ~59\nO 9I C o 2I o 1 2 ~59\nT 5k P = RH 1 5l 2 2zq 5l C o 2I a 9 1LQ ~59 2 ~59 1L2 2zr 13o 2zs VS 2zt 2nA 2zu eX 2zv 1L3 2zw 1M0 2zx\nO 9I C ^ o 1 1NE ~bb\nO 9I C ^ o 2 1NE ~bb 2 ~59\nO 9I C ^ o 1 2 ~59\nO 9I C ^\nO 9I C ^\nO 6l D ^\nO 6l D ^\nO 6l D ^ I k ~9J\nO 6l D ^ I k ~7d\nO 9I C ^ o 2 1NB ~bb 1NE ~bb\nO 9I C ^ a 1 1NO 2zG o 1 1NB ~bb\nO 9I C ^\nO 9I C ^ o 1 1NB ~bb\nO 9I C ^ o 1 1NB ~bb\nO 9I C ^\nO 9I C q Tm 29P 1KY\nT 5k P = RE 1 5l 2 2zH 5l C o 2H a h 1LQ ~59 RL ~9J 2 ~59 2nw ~bb 2nx ~59 2nB 2zJ 1L3 2zK 1M0 2zL 29u ~1I5 29v ~9J 1L2 2zM 1KY 2zN 10L 2zO 1L0 2zP 1L1 2zQ 1L5 2zR 1Xp ~bb\nO 2zn a 7 AT ~59 26O ~59 2ny ~59 2nz ~59 VS ~59 eX ~59 2nA ~59\nO 9I C ^\nO 6l D ^ I k ~9J\nO 6l D ^ I k ~7d\nO 9I C ^ o 2 1NB ~bb 1NE ~bb\nO 9I C ^ a 1 1NO 2zS o 1 1NB ~bb\nO 9I C ^\nO 9I C ^ o 1 1NB ~bb\nO 9I C ^ o 1 1NB ~bb\nO 9I C ^\nO 9I C q Tm 29P 1KY\nO 8N a 9 11W ~59 1M1 ~1B5 1M2 ~59 1M3 ~7d 1M4 ~7d 1M5 ~8O 1M6 ~8P 1M7 ~59 1M8 ~8P\nT Gz P = RD 1 Fp 3 2zU Fp 5l C o 2H a q 1WD GA 1LQ ~59 2 ~59 2nC 2zV 1WF 7y 1WG ~8P 1WH ~8O 1WI ~9J 1WJ ~9J 1WK ~8O 1WL 5l 1WM ~7d 2nD 2zW 2nE 2zX 2nF 2zY 2nG 2zZ 2nH 2A0 2nI 2A1 2nJ 2A2 2nK 2A3 2nL 2A4 2nM 2A5 2nN 2A6 2nO 2A7 2nP 2A8 1KX GE\nO 9F I k ~7d o 2 2 ~7d 1Ns 2A9\nO 2zU a 4 1Xa ~59 1Xb ~59 1N1 2zU 1Xc ~5j o 2 1M0 ~7d 1TK ~59\nO 2zU a 4 1Xa ~59 1Xb ~59 1N1 2zU 1Xc ~5j o 2 1M0 ~7d 1TK ~59\nO 2zU a 4 1Xa ~59 1Xb ~59 1N1 2zU 1Xc ~5j o 2 1M0 ~7d 1TK ~59\nO 2zU a 4 1Xa ~59 1Xb ~59 1N1 2zU 1Xc ~5j o 2 1M0 ~7d 1TK ~59\nO 2zU a 4 1Xa ~59 1Xb ~59 1N1 2zU 1Xc ~5j o 2 1M0 ~7d 1TK ~59\nO 2zU a 4 1Xa ~59 1Xb ~59 1N1 2zU 1Xc ~5j o 2 1M0 ~7d 1TK ~59\nO 2zU a 4 1Xa ~59 1Xb ~59 1N1 2zU 1Xc ~5j o 2 1M0 ~7d 1TK ~59\nO 2zU a 4 1Xa ~59 1Xb ~59 1N1 2zU 1Xc ~5j o 2 1M0 ~7d 1TK ~59\nO 2zU a 4 1Xa ~59 1Xb ~59 1N1 2zU 1Xc ~5j o 2 1M0 ~7d 1TK ~59\nO 2zU a 4 1Xa ~59 1Xb ~59 1N1 2zU 1Xc ~5j o 2 1M0 ~7d 1TK ~59\nO 2zU a 4 1Xa ~59 1Xb ~59 1N1 2zU 1Xc ~5j o 2 1M0 ~7d 1TK ~59\nO 2zU a 4 1Xa ~59 1Xb ~59 1N1 2zU 1Xc ~5j o 2 1M0 ~7d 1TK ~59\nO 2zU a 4 1Xa ~59 1Xb ~59 1N1 2zU 1Xc ~5j o 2 1M0 ~7d 1TK ~59\nO 9I C q Tm RD 2nC\nO 8N a 9 11W ~59 1M1 ~1B5 1M2 ~59 1M3 ~7d 1M4 ~7d 1M5 ~8O 1M6 ~8P 1M7 ~59 1M8 ~8P\nO 1Kq a 9 lK ~8O 11W ~59 2a9 ~5j 1Ng 1Kr 2aa ~8P W0 ~8O 2ab ~8P DH ~9J 2ac 1Ks\nO 9I C o 2G o 2 1NE ~bb 2 ~59\nO 9I C ^ o 1 2 ~59\nO 8N a 9 11W ~59 1M1 ~1B5 1M2 ~59 1M3 ~7d 1M4 ~7d 1M5 ~8O 1M6 ~8P 1M7 ~59 1M8 ~8P\nT 5k P = Rz 1 8r 4 2Af 8r 8s 5l C o 2F a 7 1LQ ~59 2 ~59 1L2 2Ao 2nQ 2Ap 1L6 2Aq 287 2Ar 1M0 2As\nT 5k P = RB 1 2Af 5 2Ag 2Af 8r 8s 5l C o 2F a 3 1LQ ~59 2 ~59 1L2 2An\nT 5k P = Rw 1 2Af 5 2Ah 2Af 8r 8s 5l C o 2F a 2 1LQ ~59 2 ~59\nT 5k P = RM 1 2Af 5 2Ai 2Af 8r 8s 5l C o 2F a 2 1LQ ~59 2 ~59\nT 5k P = Ry 1 2Af 5 2Aj 2Af 8r 8s 5l C o 2F a 2 1LQ ~59 2 ~59\nT 5k P = Rv 1 2Aj 6 2Ak 2Aj 2Af 8r 8s 5l C o 2F a 2 1LQ ~59 2 ~59\nT 5k P = RA 1 2Aj 6 2Al 2Aj 2Af 8r 8s 5l C o 2F a 2 1LQ ~59 2 ~59\nT 5k P = Rx 1 2Aj 6 2Am 2Aj 2Af 8r 8s 5l C o 2F a 2 1LQ ~59 2 ~59\nO 9I C ^ o 1 1NE ~bb\nO 9I C ^ o 1 1NE ~bb\nO 9I C ^ o 1 2 ~59\nO 9I C ^\nO 9I C ^\nO 6l D ^\nO 8N a 9 11W ~59 1M1 ~1B5 1M2 ~59 1M3 ~7d 1M4 ~7d 1M5 ~8O 1M6 ~8P 1M7 ~59 1M8 ~8P\nT 5k P = Tb 1 5l 2 2Au 5l C ^ a e 1LQ ~59 RL ~9J 2 ~59 1ge ~59 23d ~8P 1L3 2AQ 1M0 2AR 29u ~1I5 29v ~9J 1L2 2AS 1KY 2AT 10L 2AU 1L5 ~7d 1Xp ~bb\nT 5k P = Tc 1 5l 2 2Av 5l C ^ a d 1LQ ~59 RL ~9J 2 ~59 2a9 ~59 1L3 2AK 1M0 2AL 29u ~1I5 29v ~9J 1L2 2AM 1KY 2AN 10L 2AO 1L5 ~7d 1Xp ~bb\nT 5k P = Sb 1 5l 2 2Aw 5l C o 2E a e 1LQ ~59 RL ~9J 2 ~59 d2 2AB 1LX 2AC 1L3 2AD 1M0 2AE 29u ~1I5 29v ~9J 1L2 2AF 1KY 2AG 10L 2AH 1L5 ~7d 1Xp ~bb\nO 9I C ^ o 1 2 ~59\nO 9I C ^ o 1 2 ~59\nO 9I C ^ o 1 2 ~59\nO 9I C ^ o 1 2 ~59\nO b0 F 2AJ a 5 1LQ ~59 1 ~59 1MO ~59 2 ~59 RL ~9J\nO 9I C ^ o 1 2 ~59\nO 6l D ^\nO 6l D ^\nO 9I C ^ o 2 1NB ~bb 1NE ~bb\nO 9I C ^ a 1 1NO 2AI o 1 1NB ~bb\nO 9I C ^\nO 9I C q T3 29P 1KY\nO 9I C q T3 Sb d2 o 2 1NE ~bb 2 ~59\nO 6l D ^\nO 6l D ^\nO 9I C ^ o 1 1NE ~bb\nO 9I C ^ a 1 1NO 2AP o 1 1NB ~bb\nO 9I C ^\nO 9I C q T3 29P 1KY\nO 6l D ^\nO 6l D ^\nO 9I C ^ o 1 1NE ~bb\nO 9I C ^ a 1 1NO 2AV o 1 1NB ~bb\nO 9I C ^\nO 9I C q T3 29P 1KY\nO 8N a 9 11W ~59 1M1 ~1B5 1M2 ~59 1M3 ~7d 1M4 ~7d 1M5 ~8O 1M6 ~8P 1M7 ~59 1M8 ~8P\nO 9I C ^ o 1 2 ~59\nO 9I C o 2D o 2 1NE ~bb 2 ~59\nO 9I C ^ o 2 1NE ~bb 2 ~59\nO 8N a 9 11W ~59 1M1 ~1B5 1M2 ~59 1M3 ~7d 1M4 ~7d 1M5 ~8O 1M6 ~8P 1M7 ~59 1M8 ~8P\nO 1Kq a 9 lK ~8O 11W ~59 2a9 ~5j 1Ng 2B5 2aa ~8P W0 ~8O 2ab ~8P DH ~9J 2ac 1Ks\nO 9I C o 2C o 2 1NE ~bb 2 ~59\nO 9I C ^ o 1 2 ~59\nO 9I C o 2C o 1 2 ~59\nO 1Kq a 9 lK ~8O 11W ~59 2a9 ~5j 1Ng 2Ab 2aa ~8P W0 ~8O 2ab ~8P DH ~9J 2ac 1Ks\nO 8N a 9 11W ~59 1M1 ~1B5 1M2 ~59 1M3 ~7d 1M4 ~7d 1M5 ~8O 1M6 ~8P 1M7 ~59 1M8 ~8P\nT 5k P = Ru 1 5l 2 2B7 5l C o 2p a l 1LQ ~59 RL ~9J 2 ~59 2nR ~i2 2nS 2CY oX 2CZ 2nT 2D0 11b 2D1 2nU 2D2 2nV 2D3 1L3 2D4 1M0 2D5 29u ~1I5 29v ~9J 1L2 2D6 1KY 2D7 10L 2D8 1L0 2D9 1L1 2Da 1L5 2Db 1Xp ~bb\nT 5k P = Ks 1 5l 2 2B8 5l C o 2s a b 1LQ ~59 2 ~59 1L2 2CP 1L7 2CQ 1L9 2CR 11b 2CS 1NF 2CT 2nV 2CU 2nW 2CV 1L3 2CW 1M0 2CX\nT 5k P = RW 1 5l 2 2B9 5l C o 2s a m 1LQ ~59 RL ~9J 2 ~59 rd ~59 DG ~bb 2nX ~bb 2nY ~8P 2nZ 2A5 Nl ~7d 2o0 2CD 2o1 2CE 1L3 2CF 1M0 2CG 29u ~1I5 29v ~9J 1L2 2CH 1KY 2CI 10L 2CJ 1L0 2CK 1L1 2CL 1L5 2CM 1Xp ~bb\nO 9I C ^ o 1 2 ~59\nO 1Kq a 9 lK ~8O 11W ~59 2a9 ~5j 1Ng 2B5 2aa ~8P W0 ~8O 2ab ~8P DH ~9J 2ac 1Ks\nT 5k P = SR 1 2BJ 5 2Bc 2BJ 2By 2BK 5l C ^ a 7 1LQ ~59 2 ~59 1L2 2BL eX 2BM 2jQ 2BN 2o2 2BO 2kl 2BP\nT 5k P = SS 1 2Bx 4 2Bd 2Bx 2By 5l C ^ a 3 1LQ ~59 2 ~59 10T 2Bz\nO 9I C o 2B o 1 2 ~59\nT 5k P = S4 1 5l 2 2Bf 5l C o 2B a g 1LQ ~59 2 ~59 1L2 2Bi 2nx 2Bj 1dk 2Bk 2o3 2Bl 1NF 2Bm NW 2Bn 2o4 2Bo 2o5 2Bp 2o6 2Bq 2jQ 2Br 2kl 2Bs 2nW 2Bt 1L3 2Bu 1M0 2Bv\nO 9I C ^\nO 9I C o 2B o 3 1NE ~bb 2 ~59 1Nr ~9J\nO 9I C ^\nO 9F o 2 2 ~7d 1Ns 2Bw\nO 9I C ^ o 1 2 ~59\nO 9I C ^ o 1 2 ~59\nO 9I C ^ o 1 2 ~59\nO 9I C ^ o 1 2 ~59\nO 9I C ^\nO 9I C ^ o 1 2 ~59\nO 9I C ^ o 1 2 ~59\nO 9I C ^\nO 9I C ^ o 1 1NE ~bb\nO 9I C ^ o 1 2 ~59\nO 6l D ^\nO 6l D ^\nO 9I C q SJ S4 2nx\nT 5k P = mq 1 2By 3 2Bx 2By 5l C ^ a 6 1LQ ~59 2 ~59 1L2 2BF 2o7 2BG 2j0 2BH 10T 2BI\nT 5k P = mh 1 5l 2 2By 5l C ^ a 7 1LQ ~59 2 ~59 1KY 2BA 2o7 2BB 2k8 2BC 1L3 2BD 1M0 2BE\nO 9I C ^ o 1 1NE ~bb\nO 9I C ^\nO 9I C ^\nO 9I C ^\nO 6l D ^\nO 6l D ^\nO 9I C ^ o 1 1NE ~bb\nO 9I C ^\nO 9I C ^\nO 9I C ^ o 1 1NE ~bb\nT 5k P = mI 1 2By 4 2BJ 2By 2BK 5l C ^ a v 1LQ ~59 2 ~59 1L2 2Ca 2o7 2Cb 2o8 2Cc 2o9 2Cd 2oa 2Ce 2ob 2Cf 2k9 2Cg 2oc 2Ch 2od 2Ci 2oe 2Cj 2of 2Ck 2og 2Cl 2oh 2Cm 2oi 2Cn 2oj 2Co 2ok 2Cp 2ol 2Cq 2om 2Cr 2on 2Cs 1TI 2Ct 2oo 2Cu 2j0 2Cv 2jQ 2Cw 2op 2Cx 2ki 2Cy 2kl 2Cz 2oq 2CA lp 2CB eX 2CC\nT 5k P = mF 1 5l 2 2BK 5l C ^ a m 1LQ ~59 1L2 2BQ 2Y 2BR 2or 2BS 2k3 2BT 2os 2BU 2ot 2BV 2ou 2BW 2ov 2BX 2o9 2BY 2ow 2BZ 2ox 2C0 2oy 2C1 2oz 2C2 2oA 2C3 2oB 2C4 2jJ 2C5 2oC 2C6 2oD 2C7 1L3 2C8 1M0 2C9 2 ~7d o 1 2 ~7d\nO 9I C ^\nO 9I C ^\nO 9I C ^\nO 9I C ^ o 1 2 ~59\nO 9I C ^ o 1 1NE ~bb\nO 9I C ^ o 1 1NB ~bb\nO 9I C ^\nO 9I C ^ o 1 1NE ~bb\nO 9I C ^\nO 9I C ^\nO 9I C ^ o 1 2 ~59\nO 9I C ^\nO 9I C ^\nO 9I C ^\nO 9I C ^\nO 9I C ^\nO 9I C ^\nO 9I C ^\nO 9I C ^ o 1 1NE ~bb\nO 9I C ^\nO 9I C ^\nO 9I C ^\nO 9I C ^\nO 6l D ^\nO 6l D ^\nO 9I C ^ o 2 1NB ~bb 1NE ~bb\nO 9I C ^\nO 9I C ^\nO 9I C ^\nO 9I C ^\nO 9I C ^\nO 9I C ^ o 1 1NE ~bb\nO 9I C ^ o 1 1NE ~bb\nO 9I C ^\nO 9I C ^\nO 9I C ^\nO 9I C ^\nO 9I C ^\nO 9I C ^\nO 9I C ^\nO 9I C ^\nO 9I C ^ o 1 1NE ~bb\nO 9I C ^ o 1 1NE ~bb\nO 9I C ^\nO 9I C ^\nO 9I C ^\nO 9I C ^\nO 9I C ^\nO 9I C ^\nO 9I C ^ o 1 1NE ~bb\nO 9I C ^ o 1 1NE ~bb\nO 9I C ^ o 1 1NE ~bb\nO 9I C ^ o 1 1NE ~bb\nO 9I C ^ o 1 2 ~59\nO 9F o 1 1Ns 2CO\nO 9I C ^ o 1 2 ~59\nO 6l D ^\nO 6l D ^\nO 9I C ^ o 2 1NB ~bb 1NE ~bb\nO 9I C ^ a 1 1NO 2CN o 1 1NB ~bb\nO 9I C ^\nO 9I C ^ o 1 1NB ~bb\nO 9I C ^ o 1 1NB ~bb\nO 9I C ^\nO 9I C q Sk 29P 1KY\nO 9I C q Sk RW 2o0 o 1 2 ~59\nO 9I C ^\nO 9I C ^\nO 9I C ^\nO 9I C ^\nO 9I C ^ o 1 2 ~59\nO 9I C ^\nO 9I C ^ o 1 2 ~59\nO 6l D ^\nO 6l D ^\nO b0 F 2Df a 5 1LQ ~59 1 ~59 1MO ~59 2 ~59 RL ~9J\nO b0 F 2De a 5 1LQ ~59 1 ~59 1MO ~59 2 ~7d RL ~9J\nO b0 F 2Dd a 5 1LQ ~59 1 ~59 1MO ~59 2 ~7d RL ~9J\nO 9I C ^\nO 9I C ^ o 1 2 ~59\nO 9I C ^\nO 6l D ^\nO 6l D ^\nO 9I C ^ o 2 1NB ~bb 1NE ~bb\nO 9I C ^ a 1 1NO 2Dc o 1 1NB ~bb\nO 9I C ^\nO 9I C ^ o 1 1NB ~bb\nO 9I C ^ o 1 1NB ~bb\nO 9I C ^\nO 9I C q RK 29P 1KY\nO 9I C q RK Ru 2nT\nO 9I C q RK Ru oX\nO 9I C q RK Ru 2nS o 1 2 ~59\nO 8N a 9 11W ~59 1M1 ~1B5 1M2 ~59 1M3 ~7d 1M4 ~7d 1M5 ~8O 1M6 ~8P 1M7 ~59 1M8 ~8P\nO 1Kq a 9 lK ~8O 11W ~59 2a9 ~5j 1Ng 2B5 2aa ~8P W0 ~8O 2ab ~8P DH ~9J 2ac 1Ks\nO 9I C o 2A o 1 2 ~59\nO 9I C ^\nO 8N a 9 11W ~59 1M1 ~1B5 1M2 ~59 1M3 ~7d 1M4 ~7d 1M5 ~8O 1M6 ~8P 1M7 ~59 1M8 ~8P\nO 9I C o 2z o 2 1NE ~bb 2 ~59\nO 8N a 9 11W ~59 1M1 ~1B5 1M2 ~59 1M3 ~7d 1M4 ~7d 1M5 ~8O 1M6 ~8P 1M7 ~59 1M8 ~8P\nT 5k P = S0 1 5l 2 2Dn 5l C o 2y a f 1LQ ~59 RL ~9J 2 ~59 1r0 ~bb 1L3 2Do 1M0 2Dp 29u ~1I5 29v ~9J 1L2 2Dq 1KY 2Dr 10L 2Ds 1L0 2Dt 1L1 2Du 1L5 2Dv 1Xp ~bb\nO 6l D ^\nO 6l D ^\nO 9I C ^ o 2 1NB ~bb 1NE ~bb\nO 9I C ^ a 1 1NO 2Dw o 1 1NB ~bb\nO 9I C ^\nO 9I C ^ o 1 1NB ~bb\nO 9I C ^ o 1 1NB ~bb\nO 9I C ^\nO 9I C q SF 29P 1KY\nO 8N a 9 11W ~59 1M1 ~1B5 1M2 ~59 1M3 ~7d 1M4 ~7d 1M5 ~8O 1M6 ~8P 1M7 ~59 1M8 ~8P\nO 9I C o 2x\nO 8N a 9 11W ~59 1M1 ~1B5 1M2 ~59 1M3 ~7d 1M4 ~7d 1M5 ~8O 1M6 ~8P 1M7 ~59 1M8 ~8P\nT 5k P = Sx 1 5l 2 2DA 5l C o 2w a h 1LQ ~59 RL ~9J 2 ~59 RX ~bb 2oE 2DC 2oF 2DD 1L3 2DE 1M0 2DF 29u ~1I5 29v ~9J 1L2 2DG 1KY 2DH 10L 2DI 1L0 2DJ 1L1 2DK 1L5 2DL 1Xp ~bb\nO 9I C o 2w o 1 2 ~59\nO bz C ^ F 2DO a 5 1LQ ~59 1 ~59 1MO ~59 2 ~7d RL ~9J\nO b0 F 2DN a 5 1LQ ~59 1 ~59 1MO ~59 2 ~7d RL ~9J\nO 6l D ^\nO 6l D ^\nO 9I C ^ o 2 1NB ~bb 1NE ~bb\nO 9I C ^ a 1 1NO 2DM o 1 1NB ~bb\nO 9I C ^\nO 9I C ^ o 1 1NB ~bb\nO 9I C ^ o 1 1NB ~bb\nO 9I C ^\nO 9I C q SD 29P 1KY\nO 9I C q SD Sx 2oF\nO 9I C q SD Sx 2oE\nO 8N a 9 11W ~59 1M1 ~1B5 1M2 ~59 1M3 ~7d 1M4 ~8O 1M5 ~8O 1M6 ~8P 1M7 ~59 1M8 ~8P\nT Gz P = Rt 1 Fp 3 2DQ Fp 5l C o 2p a e 1WD GA 1LQ ~59 2 ~59 1WF 7y 1WG ~8P 1WH ~8O 1WI ~9J 1WJ ~9J 1WK ~8O 1WL 5l 1WM ~7d 2oG 2El 2oH 2Em 1KX GE\nT 5k P = Sv 1 5l 2 2DR 5l C ^ a f 1LQ ~59 2 ~59 2oE 2E8 2oF 2E9 1L3 2Ea 1M0 2Eb 29u ~1I5 29v ~9J 1L2 2Ec 1KY 2Ed 10L 2Ee 1L0 2Ef 1L1 2Eg 1L5 2Eh 1Xp ~bb\nT 5k P = Su 1 5l 2 2DS 5l C ^ a i 1LQ ~59 RL ~9J 2 ~59 1r0 ~bb St ~9J 2oE 2DV 2oF 2DW 1L3 2DX 1M0 2DY 29u ~1I5 29v ~9J 1L2 2DZ 1KY 2E0 10L 2E1 1L0 2E2 1L1 2E3 1L5 2E4 1Xp ~bb\nO 9I C ^ o 2 1NE ~bb 2 ~59\nO 9I C ^ o 2 1NE ~bb 2 ~59\nO bz C ^ F 2E7 a 5 1LQ ~59 1 ~59 1MO ~59 2 ~7d RL ~9J\nO b0 F 2E6 a 5 1LQ ~59 1 ~59 1MO ~59 2 ~7d RL ~9J\nO 6l D ^\nO 6l D ^\nO 9I C ^ o 2 1NB ~bb 1NE ~bb\nO 9I C ^ a 1 1NO 2E5 o 1 1NB ~bb\nO 9I C ^\nO 9I C ^ o 1 1NB ~bb\nO 9I C ^ o 1 1NB ~bb\nO 9I C ^\nO 9I C q Sr 29P 1KY\nO 9I C q Sr Su 2oF\nO 9I C q Sr Su 2oE\nO bz C ^ F 2Ek a 5 1LQ ~59 1 ~59 1MO ~59 2 ~7d RL ~9J\nO b0 F 2Ej a 5 1LQ ~59 1 ~59 1MO ~59 2 ~7d RL ~9J\nO 6l D ^\nO 6l D ^\nO 9I C ^\nO 9I C ^ a 1 1NO 2Ei o 1 1NB ~bb\nO 9I C ^\nO 9I C ^ o 1 1NB ~bb\nO 9I C ^ o 1 1NB ~bb\nO 9I C ^\nO 9I C q Sr 29P 1KY\nO 9I C q Sr Sv 2oF\nO 9I C q Sr Sv 2oE\nO 2DQ a 4 1Xa ~59 1Xb ~59 1N1 2DQ 1Xc ~5j o 2 1M0 ~7d 1TK ~59\nO 2DQ a 4 1Xa ~59 1Xb ~59 1N1 2DQ 1Xc ~5j o 2 1M0 ~7d 1TK ~59\nO 8N a 9 11W ~59 1M1 ~1B5 1M2 ~59 1M3 ~7d 1M4 ~7d 1M5 ~8O 1M6 ~8P 1M7 ~59 1M8 ~8P\nT LV P = Sl 1 LW 4 2Eo LW LO 5l C o 2u a d 1LQ ~59 2 ~59 2oE 2Eu 2oF 2Ev 1L3 2Ew 1M0 2Ex 1WA ~bb 1Y6 ~8P 1MU 2Ey 1L2 LS 1MQ ~i2 1P3 ~i3 1Y7 ~8P\nT LV P = Sm 1 LW 4 2Ep LW LO 5l C o 2u a b 1LQ ~59 2 ~59 10T 2Eq 1L3 2Er 1M0 2Es 1WA ~bb 1Y6 ~8P 1MU 2Et 1L2 LS 1MQ ~i2 1P3 ~i3\nO 9I C ^\nO 6l D ^\nO 6l D ^\nO 9I C q 1Ay 1Yt 1Yu o 1 1NB ~bb\nO bz C ^ F 2EA a 5 1LQ ~59 1 ~59 1MO ~59 2 ~7d RL ~9J\nO b0 F 2Ez a 5 1LQ ~59 1 ~59 1MO ~59 2 ~7d RL ~9J\nO 6l D ^\nO 6l D ^\nO 9I C q 1Ay 1Yt 1Yu o 1 1NB ~bb\nO 9I C q Sr Sl 2oF\nO 9I C q Sr Sl 2oE\nO 8N a 9 11W ~59 1M1 ~1B5 1M2 ~59 1M3 ~7d 1M4 ~7d 1M5 ~8O 1M6 ~8P 1M7 ~59 1M8 ~8P\nO 1Kq a 9 lK ~8O 11W ~59 2a9 ~5j 1Ng 2B5 2aa ~8P W0 ~8O 2ab ~8P DH ~9J 2ac 1Ks\nT 5k P = RY 1 5l 2 2ED 5l C o 2t a e 1LQ ~59 RL ~9J 2 ~59 1L3 2EF 1M0 2EG 29u ~1I5 29v ~9J 1L2 2EH 1KY 2EI 10L 2EJ 1L0 2EK 1L1 2EL 1L5 2EM 1Xp ~bb\nO 9I C o 2t o 1 2 ~59\nO 6l D ^\nO 6l D ^\nO 9I C ^ o 1 1NB ~bb\nO 9I C ^ a 1 1NO 2EN o 1 1NB ~bb\nO 9I C ^\nO 9I C ^ o 1 1NB ~bb\nO 9I C ^ o 1 1NB ~bb\nO 9I C ^\nO 9I C q So 29P 1KY\nO 8N a 9 11W ~59 1M1 ~1B5 1M2 ~59 1M3 ~7d 1M4 ~7d 1M5 ~8O 1M6 ~8P 1M7 ~59 1M8 ~8P\nO 8N a 9 11W ~59 1M1 ~1B5 1M2 ~59 1M3 ~7d 1M4 ~7d 1M5 ~8O 1M6 ~8P 1M7 ~59 1M8 ~8P\nO 9I C ^ o 2 1NE ~bb 2 ~59\nO 8N a 9 11W ~59 1M1 ~1B5 1M2 ~59 1M3 ~7d 1M4 ~8O 1M5 ~8O 1M6 ~8P 1M7 ~59 1M8 ~8P\nO IO C ^ a 7 1Xz 2EU 1LQ ~59 1 ~59 1MO ~59 2 ~59 RL ~9J 1NO 2EV\nO 9I C ^\nO 9I C q vw 1XG 1XF o 1 1NB ~bb\nO 9I C q RK - RR o 1 2 ~59\nO 8N a 9 11W ~59 1M1 ~1B5 1M2 ~59 1M3 ~7d 1M4 ~7d 1M5 ~8O 1M6 ~8P 1M7 ~59 1M8 ~8P\nO 1Kq a 9 lK ~8O 11W ~59 2a9 ~5j 1Ng 2Ab 2aa ~8P W0 ~8O 2ab ~8P DH ~9J 2ac 1Ks\nO 9I C ^ o 2 1NE ~bb 2 ~59\nO 8N a 9 11W ~59 1M1 ~1B5 1M2 ~59 1M3 ~7d 1M4 ~8O 1M5 ~8O 1M6 ~8P 1M7 ~59 1M8 ~8P\nO 8N a 9 11W ~59 1M1 5a 1M2 ~59 1M3 ~7d 1M4 ~7d 1M5 ~8O 1M6 ~8P 1M7 ~7d 1M8 ~8P o 1 1M9 ~7d\nO 7c C ^ S 2n\nT 5k P 2oI Ra 0 5l 2 2F2 5l C ^ a 8 1KX 2Gk 1KZ 2Gl 1L7 2Gm 1PP 2Gn 1MS 2Go 1N8 2Gp 1LO 2Gq 2 ~59 o 1 1L4 ~59\nT 5k P 2oJ Rb 0 5l 2 2F3 5l C ^ a 8 1KX 2Gd 1KZ 2Ge 1L7 2Gf 1PP 2Gg 1MS 2Gh 1N8 2Gi 1LO 2Gj 2 ~59 o 1 1L4 ~59\nT 5k P 2oK Rc 0 5l 2 2F4 5l C ^ a 7 1KX 2G7 1KZ 2G8 1L7 2G9 1PP 2Ga 1MS 2Gb 1N8 2Gc 2 ~59 o 1 1L4 ~59\nT 5k P 2oL Rd 0 5l 2 2F5 5l C ^ a 7 1KX 2G1 1KZ 2G2 1L7 2G3 1PP 2G4 1MS 2G5 1N8 2G6 2 ~59 o 1 1L4 ~59\nT 5k P 2oM Re 0 5l 2 2F6 5l C ^ a 7 1KX 2FV 1KZ 2FW 1L7 2FX 1PP 2FY 1MS 2FZ 1N8 2G0 2 ~59 o 1 1L4 ~59\nT 5k P 2oN MW 0 5l 2 2F7 5l C o 2n a 6 1KX 2FQ 1KZ 2FR 1L7 2FS 1PP 2FT 1MS 2FU 2 ~59 o 1 1L4 ~59"

end CommandLine.Objects.Data

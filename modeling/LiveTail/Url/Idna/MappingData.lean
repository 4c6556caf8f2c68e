/-! What a domain name makes of each character: the distance to the next range of characters, and
`v` for one that stands as it is, `i` for one that is left out, `x` for one that is refused, `p` and
`m` for one that is replaced by one that many code points above or below, `s` for one that is
replaced by a sequence. -/
namespace LiveTail.Idna

def mappingRows : List String := [
  "0v 41p20 1av 25x 20m80 1v 7s20.308 1v 1m49 1v 2i 1v 1s20.304 1v 2m80 2s20.301 1p307 1v 2s20.327",
  "1m88 1m4b 1v 1s31.2044.34 1s31.2044.32 1s33.2044.34 1v 1p20 17v 1p20 7v 21p1 1v 1p1 1v 1p1 1v",
  "1p1 1v 1p1 1v 1p1 1v 1p1 1v 1p1 1v 1p1 1v 1p1 1v 1p1 1v 1p1 1v 1p1 1v 1p1 1v 1p1 1v 1p1 1v 1p1",
  "1v 1p1 1v 1p1 1v 1p1 1v 1p1 1v 1p1 1v 1p1 1v 1p1 1v 1s69.307 1v 1s69.6a 2p1 1v 1p1 1v 2p1 1v 1p1",
  "1v 1p1 1v 1s6c.b7 2p1 1v 1p1 1v 1p1 1v 1p1 1v 1s2bc.6e 1p1 1v 1p1 1v 1p1 1v 1p1 1v 1p1 1v 1p1 1v",
  "1p1 1v 1p1 1v 1p1 1v 1p1 1v 1p1 1v 1p1 1v 1p1 1v 1p1 1v 1p1 1v 1p1 1v 1p1 1v 1p1 1v 1p1 1v 1p1",
  "1v 1p1 1v 1p1 1v 1p1 1v 1m79 1p1 1v 1p1 1v 1p1 1v 1m10c 1v 1pd2 1p1 1v 1p1 1v 1pce 1p1 1v 1pcd",
  "2p1 1v 2p4f 1pca 1pcb 1p1 1v 1pcd 1pcf 1v 1pd3 1pd1 1p1 1v 3pd3 1pd5 1v 1pd6 1p1 1v 1p1 1v 1p1",
  "1v 1pda 1p1 1v 1pda 1v 2p1 1v 1pda 1p1 1v 1pd9 2p1 1v 1p1 1v 1pdb 1p1 1v 3p1 1v 7s64.17e 3s6c.6a",
  "3s6e.6a 3p1 1v 1p1 1v 1p1 1v 1p1 1v 1p1 1v 1p1 1v 1p1 1v 1p1 1v 2p1 1v 1p1 1v 1p1 1v 1p1 1v 1p1",
  "1v 1p1 1v 1p1 1v 1p1 1v 1p1 1v 2s64.7a 3p1 1v 1m61 1m38 1p1 1v 1p1 1v 1p1 1v 1p1 1v 1p1 1v 1p1",
  "1v 1p1 1v 1p1 1v 1p1 1v 1p1 1v 1p1 1v 1p1 1v 1p1 1v 1p1 1v 1p1 1v 1p1 1v 1p1 1v 1p1 1v 1p1 1v",
  "1p1 1v 1m82 1v 1p1 1v 1p1 1v 1p1 1v 1p1 1v 1p1 1v 1p1 1v 1p1 1v 1p1 1v 1p1 1v 7p2a2b 1p1 1v 1ma3",
  "1p2a28 1v 2p1 1v 1mc3 1p45 1p47 1p1 1v 1p1 1v 1p1 1v 1p1 1v 1p1 1v 61m248 1m4b 1m248 1m241 1m3b",
  "1m3a 1m35 1m240 1m23f 1v 1fs20.306 1s20.307 1s20.30a 1s20.328 1s20.303 1s20.30b 1v 2m7d 1m275",
  "1m26f 1m26b 1m4f 1v 5bm40 2v 1m30 1s308.301 1p74 1v 9i 1v 20p1 1v 1p1 1v 1mbb 1v 1p1 1v 1x",
  "2s20.3b9 1v 3m343 1p74 1x 4s20.301 1s20.308.301 1p26 1m2d0 1p25 3x 1p40 1x 1p3f 2v 1p20 11x 1p20",
  "9v 23p8 1m1e 1m19 1md 1m6 1m9 1mf 1m16 1v 1p1 1v 1p1 1v 1p1 1v 1p1 1v 1p1 1v 1p1 1v 1p1 1v 1p1",
  "1v 1p1 1v 1p1 1v 1p1 1v 1p1 1v 1m36 1m30 1m2f 1v 1m3c 1m40 1v 1p1 1v 1m36 1p1 1v 2m82 3p50 10p20",
  "20v 30p1 1v 1p1 1v 1p1 1v 1p1 1v 1p1 1v 1p1 1v 1p1 1v 1p1 1v 1p1 1v 1p1 1v 1p1 1v 1p1 1v 1p1 1v",
  "1p1 1v 1p1 1v 1p1 1v 1p1 1v 9p1 1v 1p1 1v 1p1 1v 1p1 1v 1p1 1v 1p1 1v 1p1 1v 1p1 1v 1p1 1v 1p1",
  "1v 1p1 1v 1p1 1v 1p1 1v 1p1 1v 1p1 1v 1p1 1v 1p1 1v 1p1 1v 1p1 1v 1p1 1v 1p1 1v 1p1 1v 1p1 1v",
  "1p1 1v 1p1 1v 1p1 1v 1p1 1v 1pf 1p1 1v 1p1 1v 1p1 1v 1p1 1v 1p1 1v 1p1 1v 1p1 1v 2p1 1v 1p1 1v",
  "1p1 1v 1p1 1v 1p1 1v 1p1 1v 1p1 1v 1p1 1v 1p1 1v 1p1 1v 1p1 1v 1p1 1v 1p1 1v 1p1 1v 1p1 1v 1p1",
  "1v 1p1 1v 1p1 1v 1p1 1v 1p1 1v 1p1 1v 1p1 1v 1p1 1v 1p1 1v 1p1 1v 1p1 1v 1p1 1v 1p1 1v 1p1 1v",
  "1p1 1v 1p1 1v 1p1 1v 1p1 1v 1p1 1v 1p1 1v 1p1 1v 1p1 1v 1p1 1v 1p1 1v 1p1 1v 1p1 1v 1p1 1v 1p1",
  "1v 1p1 1v 1p1 1v 1p1 1v 1p1 1v 1p1 1v 1x 1p30 26x 2v 2es565.582 1v 3x 2v 3x 1v 37x 8v 1bx 4v 6x",
  "11v 16x 1v 58s627.674 1s648.674 1s6c7.674 1s64a.674 1v 64x 1v 30x 2v 3bx 2v 65x ev 3bx 2v 31x 2v",
  "fx 1v 1cx 2v 1x 1v bx 5v 20x 7v 4bx 1v 75s915.93c 1s916.93c 1s917.93c 1s91c.93c 1s921.93c",
  "1s922.93c 1s92b.93c 1s92f.93c 1v 24x 1v 8x 2v 2x 2v 16x 1v 7x 1v 1x 3v 4x 2v 9x 2v 2x 2v 4x 8v",
  "1x 4s9a1.9bc 1s9a2.9bc 1x 1s9af.9bc 1v 4x 2v 19x 2v 3x 1v 6x 4v 2x 2v 16x 1v 7x 1v 1sa32.a3c 1x",
  "1v 1sa38.a3c 1x 1v 2x 2v 1x 1v 5x 4v 2x 2v 3x 3v 1x 7sa16.a3c 1sa17.a3c 1sa1c.a3c 1v 1x",
  "1sa2b.a3c 1x 7v 11x av 3x 1v 9x 1v 3x 1v 16x 1v 7x 1v 2x 1v 5x 2v ax 1v 3x 1v 3x 2v 1x fv 4x 2v",
  "cx 7v 7x 1v 3x 1v 8x 2v 2x 2v 16x 1v 7x 1v 2x 1v 5x 2v 9x 2v 2x 2v 3x 7v 3x 4sb21.b3c 1sb22.b3c",
  "1x 1v 5x 2v 12x av 2x 1v 6x 3v 3x 1v 4x 3v 2x 1v 1x 1v 2x 3v 2x 3v 3x 3v cx 4v 5x 3v 3x 1v 4x 2v",
  "1x 6v 1x ev 15x 5v dx 1v 3x 1v 17x 1v 10x 2v 9x 1v 3x 1v 4x 7v 2x 1v 3x 1v 2x 2v 4x 2v ax 7v 16x",
  "1v 3x 1v 17x 1v ax 1v 5x 2v 9x 1v 3x 1v 4x 7v 2x 5v 3x 1v 4x 2v ax 1v 3x cv dx 1v 3x 1v 33x 1v",
  "3x 1v 6x 4v 10x 2v 1ax 1v 3x 1v 12x 3v 18x 1v 9x 1v 1x 2v 7x 3v 1x 4v 6x 1v 1x 1v 8x 6v ax 2v 3x",
  "cv 32se4d.e32 1v 7x 4v 1dx 25v 2x 1v 1x 1v 5x 1v 18x 1v 1x 1v csecd.eb2 1v ax 2v 5x 1v 1x 1v 7x",
  "1v ax 2seab.e99 1seab.ea1 1v 2x 20v cm1 1v 36sf42.fb7 1v 4x 1v 4sf4c.fb7 1v 4sf51.fb7 1v",
  "4sf56.fb7 1v 4sf5b.fb7 1v csf40.fb5 1v 3x 4v 2sf71.f72 1v 1sf71.f74 1sfb2.f80 1sfb2.f71.f80",
  "1sfb3.f80 1sfb3.f71.f80 1v 7sf71.f80 1v 11sf92.fb7 1v 4x 1v 4sf9c.fb7 1v 4sfa1.fb7 1v 4sfa6.fb7",
  "1v 4sfab.fb7 1v csf90.fb5 1v 3x 1v fx 1v dx 25v a0p1c60 26x 1p1c60 1x 5p1c60 1x 2v 2cm20 1v 62i",
  "2v e8x 1v 4x 2v 7x 1v 1x 1v 4x 2v 29x 1v 4x 2v 21x 1v 4x 2v 7x 1v 1x 1v 4x 2v fx 1v 39x 1v 4x 2v",
  "43x 2v 20x 3v 1ax 6v 56x 2m8 6x 2v 280x 1v 1cx 3v 59x 7v 16x 9v 18x 9v 14x cv dx 1v 3x 1v 2x cv",
  "34i 2v 28x 2v ax 6v ax 6v bi 5v ax 6v 59x 7v 2bx 5v 46x av 1fx 1v cx 4v cx 4v 1x 3v 2ax 2v 5x bv",
  "2cx 4v 1ax 6v bx 3v 3ex 2v 41x 1v 1dx 2v bx 6v ax 6v ex 2v 2ex 2v cx 14v 4dx 1v a6x 8v 3cx 3v fx",
  "3v 33m184e 1m184d 1m1844 1m1842 2m1843 1m183c 1m1824 1p89c3 1p1 1v 1x 5mbc0 2bx 2mbc0 3v 8x 8v",
  "2bx 5v 2cm1ccb 1m1c47 1m1ccc 1v 1m1ccc 2m1b55 1m1ccc 8v 1m1ccd 1m1b1a 1m1cce 1m1ccd 1m1ccc",
  "2m1ccb 1m1ce2 1m1af4 2m44 1m1ce5 1m1ce4 2m1af1 1m1af0 2m1ce6 1v 1m1ce4 1m1ce3 1m1c06 1m1ce3",
  "1m1aff 1m3e 2m1ce6 1m1ce3 2m3c 1m1aeb 1m1ce5 1m37 1m19ab 3m199a 2m1cf9 1m1cf1 1m1cef 2m19b4",
  "2m19a7 1m19a3 2v dm193b 1v 22m1b49 1m1d39 1m1b48 1m1cae 1m1b43 1m1d3a 1m1b42 1m1b41 1m1b3e",
  "1m1b3c 3m2c 1m1b0b 1m1b3c 1m25 1m1b0c 1m1b3b 1m1b3d 1m1b3c 4m1b3a 1m1b31 2m1c0a 1m1b2d 2m9c",
  "1m1b2e 2m1d41 1m1b2c 3m1a07 1v 40p1 1v 1p1 1v 1p1 1v 1p1 1v 1p1 1v 1p1 1v 1p1 1v 1p1 1v 1p1 1v",
  "1p1 1v 1p1 1v 1p1 1v 1p1 1v 1p1 1v 1p1 1v 1p1 1v 1p1 1v 1p1 1v 1p1 1v 1p1 1v 1p1 1v 1p1 1v 1p1",
  "1v 1p1 1v 1p1 1v 1p1 1v 1p1 1v 1p1 1v 1p1 1v 1p1 1v 1p1 1v 1p1 1v 1p1 1v 1p1 1v 1p1 1v 1p1 1v",
  "1p1 1v 1p1 1v 1p1 1v 1p1 1v 1p1 1v 1p1 1v 1p1 1v 1p1 1v 1p1 1v 1p1 1v 1p1 1v 1p1 1v 1p1 1v 1p1",
  "1v 1p1 1v 1p1 1v 1p1 1v 1p1 1v 1p1 1v 1p1 1v 1p1 1v 1p1 1v 1p1 1v 1p1 1v 1p1 1v 1p1 1v 1p1 1v",
  "1p1 1v 1p1 1v 1p1 1v 1p1 1v 1p1 1v 1p1 1v 1p1 1v 1p1 1v 1p1 1v 1p1 1v 1p1 1v 1p1 1v 5s61.2be",
  "1m3a 1v 2m1dbf 1v 1p1 1v 1p1 1v 1p1 1v 1p1 1v 1p1 1v 1p1 1v 1p1 1v 1p1 1v 1p1 1v 1p1 1v 1p1 1v",
  "1p1 1v 1p1 1v 1p1 1v 1p1 1v 1p1 1v 1p1 1v 1p1 1v 1p1 1v 1p1 1v 1p1 1v 1p1 1v 1p1 1v 1p1 1v 1p1",
  "1v 1p1 1v 1p1 1v 1p1 1v 1p1 1v 1p1 1v 1p1 1v 1p1 1v 1p1 1v 1p1 1v 1p1 1v 1p1 1v 1p1 1v 1p1 1v",
  "1p1 1v 1p1 1v 1p1 1v 1p1 1v 1p1 1v 1p1 1v 1p1 1v 1p1 1v 1p1 1v 1p1 1v 9m8 8v 6x 2m8 6x 2v 8m8 8v",
  "8m8 8v 6x 2m8 6x 2v 8x 1m8 1x 1m8 1x 1m8 1x 1m8 1v 8m8 8v 1m1bc5 1v 1m1bc6 1v 1m1bc7 1v 1m1bc8",
  "1v 1m1bad 1v 1m1bae 1v 1m1baf 1x 2s1f00.3b9 1s1f01.3b9 1s1f02.3b9 1s1f03.3b9 1s1f04.3b9",
  "1s1f05.3b9 1s1f06.3b9 1s1f07.3b9 1s1f00.3b9 1s1f01.3b9 1s1f02.3b9 1s1f03.3b9 1s1f04.3b9",
  "1s1f05.3b9 1s1f06.3b9 1s1f07.3b9 1s1f20.3b9 1s1f21.3b9 1s1f22.3b9 1s1f23.3b9 1s1f24.3b9",
  "1s1f25.3b9 1s1f26.3b9 1s1f27.3b9 1s1f20.3b9 1s1f21.3b9 1s1f22.3b9 1s1f23.3b9 1s1f24.3b9",
  "1s1f25.3b9 1s1f26.3b9 1s1f27.3b9 1s1f60.3b9 1s1f61.3b9 1s1f62.3b9 1s1f63.3b9 1s1f64.3b9",
  "1s1f65.3b9 1s1f66.3b9 1s1f67.3b9 1s1f60.3b9 1s1f61.3b9 1s1f62.3b9 1s1f63.3b9 1s1f64.3b9",
  "1s1f65.3b9 1s1f66.3b9 1s1f67.3b9 1v 2s1f70.3b9 1s3b1.3b9 1s3ac.3b9 1x 1v 1s1fb6.3b9 1m8 2m4a",
  "1m1c0f 1s3b1.3b9 1s20.313 1m1c05 1s20.313 1s20.342 1s20.308.342 1s1f74.3b9 1s3b7.3b9 1s3ae.3b9",
  "1x 1v 1s1fc6.3b9 1m56 1m1c1c 1m56 1m1c1d 1s3b7.3b9 1s20.313.300 1s20.313.301 1s20.313.342 1v",
  "3m1c43 1x 2v 2m8 2m64 1m1c2c 1x 1s20.314.300 1s20.314.301 1s20.314.342 1v 3m1c33 1v 4m8 2m70",
  "1m1c1e 1m7 1s20.308.300 1s20.308.301 1m1f8f 1x 2s1f7c.3b9 1s3c9.3b9 1s3ce.3b9 1x 1v 1s1ff6.3b9",
  "1m80 1m1c2d 1m7e 1m1c2d 1s3c9.3b9 1s20.301 1s20.314 1x 1m1fe0 1m1fe1 1m1fe2 1m1fe3 1m1fe4 1m1fe5",
  "1m1fe6 1m1fe7 1m1fe8 1m1fe9 1m1fea 1i 1v 2x 2v 1m1 1v 5s20.333 1v cx 3v 1x 7m200f 1v 3s2032.2032",
  "1s2032.2032.2032 1v 1s2035.2035 1s2035.2035.2035 1v 4s21.21 1v 1s20.305 1v 8s3f.3f 1s3f.21",
  "1s21.3f 1v ds2032.2032.2032.2032 1v 7m203f 1i 5x 5i 6m2040 1m2008 1x 2m2040 6m204f 1p197 1m203f",
  "1m2055 2m2011 1m2050 am205f 1p187 1m204f 1m2065 2x 1m202f 1m202c 1m2023 1m201b 1m1e3b 1m202d",
  "1m202b 4m202a 1m2028 2x 3v 8s72.73 1v 19x ev 21x fs61.2f.63 1s61.2f.73 1m209f 1sb0.63 1v",
  "1s63.2f.6f 1s63.2f.75 1m1eac 1v 1sb0.66 1m20a3 2m20a4 1m20a5 1m20a6 1m1fe8 1m20a7 1m20a8 1m20a6",
  "1m20a7 1v 1m20a7 1s6e.6f 1v 2m20a9 3m20aa 1m20ab 1v 2s73.6d 1s74.65.6c 1s74.6d 1v 1m20aa 1v",
  "1m1d5d 1v 1m20ae 1v 1m20bf 1m2046 1m20ca 2v 1m20ca 1m20cb 2p1c 1m20c6 1m20c5 1m1b65 4m20d0 1v",
  "1s66.61.78 1m1d7c 1m1d8a 1m1d8b 1m1d7f 1pd1 1v 4m20e1 1m20e2 2m20df 2v 6s31.2044.37 1s31.2044.39",
  "1s31.2044.31.30 1s31.2044.33 1s32.2044.33 1s31.2044.35 1s32.2044.35 1s33.2044.35 1s34.2044.35",
  "1s31.2044.36 1s35.2044.36 1s31.2044.38 1s33.2044.38 1s35.2044.38 1s37.2044.38 1s31.2044 1m20f7",
  "1s69.69 1s69.69.69 1s69.76 1m20ee 1s76.69 1s76.69.69 1s76.69.69.69 1s69.78 1m20f1 1s78.69",
  "1s78.69.69 1m2100 1m210a 2m2102 1m2107 1s69.69 1s69.69.69 1s69.76 1m20fe 1s76.69 1s76.69.69",
  "1s76.69.69.69 1s69.78 1m2101 1s78.69 1s78.69.69 1m2110 1m211a 2m2112 1v 3p1 1v 5s30.2044.33 1v",
  "2x 4v 9cs222b.222b 1s222b.222b.222b 1v 1s222e.222e 1s222e.222e.222e 1v f8pcdf 2v ffx 16v bx",
  "15m242f 9s31.30 1s31.31 1s31.32 1s31.33 1s31.34 1s31.35 1s31.36 1s31.37 1s31.38 1s31.39 1s32.30",
  "1s28.31.29 1s28.32.29 1s28.33.29 1s28.34.29 1s28.35.29 1s28.36.29 1s28.37.29 1s28.38.29",
  "1s28.39.29 1s28.31.30.29 1s28.31.31.29 1s28.31.32.29 1s28.31.33.29 1s28.31.34.29 1s28.31.35.29",
  "1s28.31.36.29 1s28.31.37.29 1s28.31.38.29 1s28.31.39.29 1s28.32.30.29 1x 14s28.61.29 1s28.62.29",
  "1s28.63.29 1s28.64.29 1s28.65.29 1s28.66.29 1s28.67.29 1s28.68.29 1s28.69.29 1s28.6a.29",
  "1s28.6b.29 1s28.6c.29 1s28.6d.29 1s28.6e.29 1s28.6f.29 1s28.70.29 1s28.71.29 1s28.72.29",
  "1s28.73.29 1s28.74.29 1s28.75.29 1s28.76.29 1s28.77.29 1s28.78.29 1s28.79.29 1s28.7a.29 1m2455",
  "1am246f 1am24ba 1v 521s222b.222b.222b.222b 1v 67s3a.3a.3d 1s3d.3d 1s3d.3d.3d 1v 65s2add.338 1v",
  "97x 2v 8ap30 30v 30p1 1v 1m29f7 1mee6 1m29e7 1v 2p1 1v 1p1 1v 1p1 1v 1m2a1c 1m29fd 1m2a1f 1m2a1e",
  "1v 1p1 1v 2p1 1v 6m2c12 1m2c07 1m2a3f 2p1 1v 1p1 1v 1p1 1v 1p1 1v 1p1 1v 1p1 1v 1p1 1v 1p1 1v",
  "1p1 1v 1p1 1v 1p1 1v 1p1 1v 1p1 1v 1p1 1v 1p1 1v 1p1 1v 1p1 1v 1p1 1v 1p1 1v 1p1 1v 1p1 1v 1p1",
  "1v 1p1 1v 1p1 1v 1p1 1v 1p1 1v 1p1 1v 1p1 1v 1p1 1v 1p1 1v 1p1 1v 1p1 1v 1p1 1v 1p1 1v 1p1 1v",
  "1p1 1v 1p1 1v 1p1 1v 1p1 1v 1p1 1v 1p1 1v 1p1 1v 1p1 1v 1p1 1v 1p1 1v 1p1 1v 1p1 1v 1p1 1v 1p1",
  "1v 1p1 1v 8p1 1v 1p1 1v 4p1 1v 1x 5v 2dx 1v 1x 5v 1x 2v 38x 7me 1v 1x ev 18x 9v 7x 1v 7x 1v 7x",
  "1v 7x 1v 7x 1v 7x 1v 7x 1v 7x 1v 7ex 22v 1ax 1v 4p3d2e 1v 53p70ac 1x cp1f00 1p1f27 1p1f34 1p1f3c",
  "1p1f55 1p1f80 1p1f86 1p1f99 1p1fb2 1p2236 1p225b 1p2260 1p2276 1p2289 1p229d 1p22d1 1p22e5",
  "1p22ef 1p2389 1p23e6 1p2401 1p2405 1p2422 1p242a 1p2444 1p2450 1p2468 1p249b 1p24ac 1p24c6",
  "1p27b9 1p2800 1p29cb 1p29e1 1p29e8 1p29f2 1p2a03 1p2a4e 1p2c2a 1p2c59 1p2cd0 1p2ce6 1p2cf8",
  "1p2d0d 1p2d42 1p2d44 1p2ead 1p2eb6 1p2ec1 1p2ecd 1p2f40 1p2f47 1p2f4b 1p2fbf 1p2fc8 1p2fd4",
  "1p2fdb 1p3017 1p3027 1p3038 1p3087 1p32cb 1p32f8 1p330c 1p35ef 1p35f3 1p3645 1p3654 1p3660",
  "1p3674 1p369a 1p369e 1p37a8 1p37bf 1p37de 1p3bd5 1p3c16 1p3c2c 1p3c65 1p3c7c 1p3c84 1p3c8a",
  "1p3cbd 1p3cc1 1p3ce0 1p4116 1p42d4 1p42df 1p42e3 1p42e6 1p42ed 1p42fe 1p42ff 1p434f 1p4426",
  "1p442a 1p457c 1p4585 1p45b6 1p45bc 1p45c4 1p45cb 1p4625 1p462b 1p470e 1p4714 1p4744 1p4754",
  "1p4782 1p486e 1p4874 1p4884 1p49ca 1p4a47 1p4a4c 1p4b01 1p4b57 1p4b84 1p4cfd 1p4d81 1p4fbe",
  "1p4fd8 1p5010 1p5042 1p5085 1p508f 1p5094 1p50b4 1p50ff 1p5108 1p5261 1p5267 1p526f 1p5277",
  "1p5286 1p5294 1p5297 1p52e5 1p52e8 1p52ed 1p56c1 1p56de 1p58b2 1p58bd 1p58d3 1p59ed 1p59f9",
  "1p5a3f 1p5a6c 1p5ca2 1p5cb0 1p5cbe 1p5ce0 1p5d04 1p5dca 1p5dd5 1p5e17 1p5f0e 1p5f2c 1p5ffc",
  "1p6010 1p6014 1p60ef 1p61a6 1p6222 1p6227 1p622b 1p65d0 1p65d8 1p6673 1p670c 1p670e 1p673c",
  "1p67a4 1p67b0 1p67b3 1p67b9 1p681a 1p683b 1p6840 1p684d 1p68f3 1p6925 1p6928 1p69de 1p69e0",
  "1p69f2 1p6aed 1p6b1c 1p6b22 1p6b67 1p6b70 1p6b72 1p6b7b 1p6b98 1p6d22 1p6eb1 1p6eba 1p6edf",
  "1p6ef4 1p6efb 1p6f04 1p6f07 1p6f2e 1p6f31 1p6f41 1p6f45 1p6f51 1p6f6b 1p6f79 1p6f80 1p6fba",
  "1p6fc8 1p6fcb 1x 2am2fe0 1v 1m2fd4 1v 33m24 1v 1p2309 1p230b 2v 5x 1v 56x 2v 2s20.3099 1s20.309a",
  "1v 2s3088.308a 1v 5fs30b3.30c8 1x 5v 2bx 1m2031 2m1f89 1m2032 1m1f89 2m2034 3m1f8a 6m2026 1m203b",
  "3m2023 1m203c am1fee 15i 1m2051 2m1fa0 2m1f9d 1m1f9c 1m1f98 1m1f95 1m1f94 1m2052 1m1f92 1m1f91",
  "1m2054 2m2053 1m2052 2m204f 1m204e 1m204d 5m204b 1m2048 1m203f 1m2039 1m2035 1m1f91 2m202d",
  "3m2003 2m2001 1m1ff9 2m1ff8 1m1fef 1m1fed 1x 1v 2p1c6e 1p1cf9 1p1c75 1p2546 1p1c74 1p1c96 1p1c73",
  "1p4399 1p1cbf 1p1c7e 1p1c65 1p278c 1p2592 1p1d1b 1v 46x av 10s28.1100.29 1s28.1102.29",
  "1s28.1103.29 1s28.1105.29 1s28.1106.29 1s28.1107.29 1s28.1109.29 1s28.110b.29 1s28.110c.29",
  "1s28.110e.29 1s28.110f.29 1s28.1110.29 1s28.1111.29 1s28.1112.29 1s28.ac00.29 1s28.b098.29",
  "1s28.b2e4.29 1s28.b77c.29 1s28.b9c8.29 1s28.bc14.29 1s28.c0ac.29 1s28.c544.29 1s28.c790.29",
  "1s28.cc28.29 1s28.ce74.29 1s28.d0c0.29 1s28.d30c.29 1s28.d558.29 1s28.c8fc.29 1s28.c624.c804.29",
  "1s28.c624.d6c4.29 1x 1s28.4e00.29 1s28.4e8c.29 1s28.4e09.29 1s28.56db.29 1s28.4e94.29",
  "1s28.516d.29 1s28.4e03.29 1s28.516b.29 1s28.4e5d.29 1s28.5341.29 1s28.6708.29 1s28.706b.29",
  "1s28.6c34.29 1s28.6728.29 1s28.91d1.29 1s28.571f.29 1s28.65e5.29 1s28.682a.29 1s28.6709.29",
  "1s28.793e.29 1s28.540d.29 1s28.7279.29 1s28.8ca1.29 1s28.795d.29 1s28.52b4.29 1s28.4ee3.29",
  "1s28.547c.29 1s28.5b66.29 1s28.76e3.29 1s28.4f01.29 1s28.8cc7.29 1s28.5354.29 1s28.796d.29",
  "1s28.4f11.29 1s28.81ea.29 1s28.81f3.29 1p230b 1p2c37 1p3341 1p4948 1v 8s70.74.65 1s32.31 1s32.32",
  "1s32.33 1s32.34 1s32.35 1s32.36 1s32.37 1s32.38 1s32.39 1s33.30 1s33.31 1s33.32 1s33.33 1s33.34",
  "1s33.35 1m2160 1m215f 2m215e 3m215d 1m215c 2m215b 5p7992 1p7e29 1p8074 1p850b 1p8756 1p89a1",
  "1p8e38 1p92cf 1p951a 1p99b1 1p9bfc 1p9e47 1pa092 1pa2dd 1scc38.ace0 1sc8fc.c758 1p9432 1v 1p1b80",
  "1p1c0b 1p1b87 1p2458 1p1c10 1p1ee8 1p1b7d 1p1ee4 1p1bd5 1p20b8 1p347e 1p3de0 1p39a8 1p349b",
  "1p5f43 1p2490 1p3355 1p3599 1p3477 1p46ab 1p2179 1p3fe4 1p5a0b 1p46c6 1p201c 1p473f 1p429d",
  "1p26d8 1p5dcd 1p1e8d 1p20d2 1p3a49 1p6565 1p1c70 1p1ef7 1p38c0 1p1b66 1p1b88 1p1b65 1p2b3f",
  "1p214b 1p2092 1p28ed 1p28bb 1p4437 1p1c54 1p5a19 1p20a5 1p266c 1s33.36 1s33.37 1s33.38 1s33.39",
  "1s34.30 1s34.31 1s34.32 1s34.33 1s34.34 1s34.35 1s34.36 1s34.37 1s34.38 1s34.39 1s35.30",
  "1s31.6708 1s32.6708 1s33.6708 1s34.6708 1s35.6708 1s36.6708 1s37.6708 1s38.6708 1s39.6708",
  "1s31.30.6708 1s31.31.6708 1s31.32.6708 1s68.67 1s65.72.67 1s65.76 1s6c.74.64 1m22e 1m22d 1m22c",
  "1m22b 1m22a 2m229 1m228 1m227 1m226 1m225 1m224 1m223 1m222 1m221 1m220 1m21f 1m21d 1m21c 1m21b",
  "1m21a 6m218 1m216 1m214 1m212 1m210 5m20f 1m20e 1m20d 6m20c 4s4ee4.548c 1s30a2.30d1.30fc.30c8",
  "1s30a2.30eb.30d5.30a1 1s30a2.30f3.30da.30a2 1s30a2.30fc.30eb 1s30a4.30cb.30f3.30b0",
  "1s30a4.30f3.30c1 1s30a6.30a9.30f3 1s30a8.30b9.30af.30fc.30c9 1s30a8.30fc.30ab.30fc",
  "1s30aa.30f3.30b9 1s30aa.30fc.30e0 1s30ab.30a4.30ea 1s30ab.30e9.30c3.30c8 1s30ab.30ed.30ea.30fc",
  "1s30ac.30ed.30f3 1s30ac.30f3.30de 1s30ae.30ac 1s30ae.30cb.30fc 1s30ad.30e5.30ea.30fc",
  "1s30ae.30eb.30c0.30fc 1s30ad.30ed 1s30ad.30ed.30b0.30e9.30e0 1s30ad.30ed.30e1.30fc.30c8.30eb",
  "1s30ad.30ed.30ef.30c3.30c8 1s30b0.30e9.30e0 1s30b0.30e9.30e0.30c8.30f3",
  "1s30af.30eb.30bc.30a4.30ed 1s30af.30ed.30fc.30cd 1s30b1.30fc.30b9 1s30b3.30eb.30ca",
  "1s30b3.30fc.30dd 1s30b5.30a4.30af.30eb 1s30b5.30f3.30c1.30fc.30e0 1s30b7.30ea.30f3.30b0",
  "1s30bb.30f3.30c1 1s30bb.30f3.30c8 1s30c0.30fc.30b9 1s30c7.30b7 1s30c9.30eb 1s30c8.30f3",
  "1s30ca.30ce 1s30ce.30c3.30c8 1s30cf.30a4.30c4 1s30d1.30fc.30bb.30f3.30c8 1s30d1.30fc.30c4",
  "1s30d0.30fc.30ec.30eb 1s30d4.30a2.30b9.30c8.30eb 1s30d4.30af.30eb 1s30d4.30b3 1s30d3.30eb",
  "1s30d5.30a1.30e9.30c3.30c9 1s30d5.30a3.30fc.30c8 1s30d6.30c3.30b7.30a7.30eb 1s30d5.30e9.30f3",
  "1s30d8.30af.30bf.30fc.30eb 1s30da.30bd 1s30da.30cb.30d2 1s30d8.30eb.30c4 1s30da.30f3.30b9",
  "1s30da.30fc.30b8 1s30d9.30fc.30bf 1s30dd.30a4.30f3.30c8 1s30dc.30eb.30c8 1s30db.30f3",
  "1s30dd.30f3.30c9 1s30db.30fc.30eb 1s30db.30fc.30f3 1s30de.30a4.30af.30ed 1s30de.30a4.30eb",
  "1s30de.30c3.30cf 1s30de.30eb.30af 1s30de.30f3.30b7.30e7.30f3 1s30df.30af.30ed.30f3 1s30df.30ea",
  "1s30df.30ea.30d0.30fc.30eb 1s30e1.30ac 1s30e1.30ac.30c8.30f3 1s30e1.30fc.30c8.30eb",
  "1s30e4.30fc.30c9 1s30e4.30fc.30eb 1s30e6.30a2.30f3 1s30ea.30c3.30c8.30eb 1s30ea.30e9",
  "1s30eb.30d4.30fc 1s30eb.30fc.30d6.30eb 1s30ec.30e0 1s30ec.30f3.30c8.30b2.30f3 1s30ef.30c3.30c8",
  "1s30.70b9 1s31.70b9 1s32.70b9 1s33.70b9 1s34.70b9 1s35.70b9 1s36.70b9 1s37.70b9 1s38.70b9",
  "1s39.70b9 1s31.30.70b9 1s31.31.70b9 1s31.32.70b9 1s31.33.70b9 1s31.34.70b9 1s31.35.70b9",
  "1s31.36.70b9 1s31.37.70b9 1s31.38.70b9 1s31.39.70b9 1s32.30.70b9 1s32.31.70b9 1s32.32.70b9",
  "1s32.33.70b9 1s32.34.70b9 1s68.70.61 1s64.61 1s61.75 1s62.61.72 1s6f.76 1s70.63 1s64.6d",
  "1s64.6d.32 1s64.6d.33 1s69.75 1s5e73.6210 1s662d.548c 1s5927.6b63 1s660e.6cbb",
  "1s682a.5f0f.4f1a.793e 1s70.61 1s6e.61 1s3bc.61 1s6d.61 1s6b.61 1s6b.62 1s6d.62 1s67.62",
  "1s63.61.6c 1s6b.63.61.6c 1s70.66 1s6e.66 1s3bc.66 1s3bc.67 1s6d.67 1s6b.67 1s68.7a 1s6b.68.7a",
  "1s6d.68.7a 1s67.68.7a 1s74.68.7a 1s3bc.6c 1s6d.6c 1s64.6c 1s6b.6c 1s66.6d 1s6e.6d 1s3bc.6d",
  "1s6d.6d 1s63.6d 1s6b.6d 1s6d.6d.32 1s63.6d.32 1s6d.32 1s6b.6d.32 1s6d.6d.33 1s63.6d.33 1s6d.33",
  "1s6b.6d.33 1s6d.2215.73 1s6d.2215.73.32 1s70.61 1s6b.70.61 1s6d.70.61 1s67.70.61 1s72.61.64",
  "1s72.61.64.2215.73 1s72.61.64.2215.73.32 1s70.73 1s6e.73 1s3bc.73 1s6d.73 1s70.76 1s6e.76",
  "1s3bc.76 1s6d.76 1s6b.76 1s6d.76 1s70.77 1s6e.77 1s3bc.77 1s6d.77 1s6b.77 1s6d.77 1s6b.3c9",
  "1s6d.3c9 1x 1s62.71 1s63.63 1s63.64 1s63.2215.6b.67 1x 1s64.62 1s67.79 1s68.61 1s68.70 1s69.6e",
  "1s6b.6b 1s6b.6d 1s6b.74 1s6c.6d 1s6c.6e 1s6c.6f.67 1s6c.78 1s6d.62 1s6d.69.6c 1s6d.6f.6c 1s70.68",
  "1x 1s70.70.6d 1s70.72 1s73.72 1s73.76 1s77.62 1s76.2215.6d 1s61.2215.6d 1s31.65e5 1s32.65e5",
  "1s33.65e5 1s34.65e5 1s35.65e5 1s36.65e5 1s37.65e5 1s38.65e5 1s39.65e5 1s31.30.65e5 1s31.31.65e5",
  "1s31.32.65e5 1s31.33.65e5 1s31.34.65e5 1s31.35.65e5 1s31.36.65e5 1s31.37.65e5 1s31.38.65e5",
  "1s31.39.65e5 1s32.30.65e5 1s32.31.65e5 1s32.32.65e5 1s32.33.65e5 1s32.34.65e5 1s32.35.65e5",
  "1s32.36.65e5 1s32.37.65e5 1s32.38.65e5 1s32.39.65e5 1s33.30.65e5 1s33.31.65e5 1s67.61.6c 1v",
  "708dx 3v 37x 9v 15cx 14p1 1v 1p1 1v 1p1 1v 1p1 1v 1p1 1v 1p1 1v 1p1 1v 1p1 1v 1p1 1v 1p1 1v 1p1",
  "1v 1p1 1v 1p1 1v 1p1 1v 1p1 1v 1p1 1v 1p1 1v 1p1 1v 1p1 1v 1p1 1v 1p1 1v 1p1 1v 1p1 1v 13p1 1v",
  "1p1 1v 1p1 1v 1p1 1v 1p1 1v 1p1 1v 1p1 1v 1p1 1v 1p1 1v 1p1 1v 1p1 1v 1p1 1v 1p1 1v 1p1 1v",
  "1ma252 1ma251 1v 5ax 8v 22p1 1v 1p1 1v 1p1 1v 1p1 1v 1p1 1v 1p1 1v 1p1 1v 3p1 1v 1p1 1v 1p1 1v",
  "1p1 1v 1p1 1v 1p1 1v 1p1 1v 1p1 1v 1p1 1v 1p1 1v 1p1 1v 1p1 1v 1p1 1v 1p1 1v 1p1 1v 1p1 1v 1p1",
  "1v 1p1 1v 1p1 1v 1p1 1v 1p1 1v 1p1 1v 1p1 1v 1p1 1v 1p1 1v 1p1 1v 1p1 1v 1p1 1v 1p1 1v 1p1 1v",
  "1p1 1v 1m1 1v 8p1 1v 1p1 1v 1m8a04 1p1 1v 1p1 1v 1p1 1v 1p1 1v 1p1 1v 4p1 1v 1ma528 1v 2p1 1v",
  "1p1 1v 3p1 1v 1p1 1v 1p1 1v 1p1 1v 1p1 1v 1p1 1v 1p1 1v 1p1 1v 1p1 1v 1p1 1v 1ma544 1ma54f",
  "1ma54b 1ma541 1ma544 1v 1ma512 1ma52a 1ma515 1p3a0 1p1 1v 1p1 1v 1p1 1v 1p1 1v 1p1 1v 1p1 1v 1p1",
  "1v 1p1 1v 1m30 1ma543 1m8a38 1p1 1v 1p1 1v 1ma567 1p1 1v 1p1 1v 1p1 1v 1p1 1v 1p1 1v 1p1 1v 1p1",
  "1v 1p1 1v 1ma641 1x 14ma77e 1ma78f 1ma78d 1ma783 1p1 1v 2ma6d1 1ma6a6 1v 33x 3v ax 6v 38x 8v 46x",
  "8v cx 6v 74x bv 1ex 3v 4ex 1v bx 4v 21x 1v 37x 9v ex 2v ax 2v 67x 18v 1cx av 6x 2v 6x 2v 6x 9v",
  "7x 1v 7x 1v 2cm435 1m26 1ma8f3 1md 1v 9ma8dc 1v 2x 4m97d0 50v 2ex 2v ax 6v 2ba4x cv 17x 4v 31x",
  "2104m6cb8 1m920d 1m6a38 1m6c3b 1m8a33 1maad3 1ma521 1m596b 1m596c 1m9fb8 1m6739 1ma384 1m9fc4",
  "1m9717 1m82a5 1m798a 1m72d1 1m7157 1m701a 1m6884 1m8f12 1m8bfa 1m883d 1m8539 1m74db 1m67af",
  "1m5f29 1maa99 1ma5a7 1m8e19 1m8703 1m72f2 1m5b02 1m9bd1 1m8937 1m7356 1m6fc0 1m965c 1m774e",
  "1m7108 1m9a5e 1m9212 1m8bc0 1m862f 1m685e 1ma9a7 1ma777 1ma651 1m946c 1m8e5e 1m8722 1m824c",
  "1m7933 1m732f 1m72da 1m6b48 1m6206 1m5dca 1m5b40 1m80af 1m7fbd 1m7b9d 1m7575 1m663b 1m5ac1",
  "1m6e6b 1ma063 1m9a3f 1m7ce4 1m78c7 1m86e4 1m807d 1m6c86 1m6252 1ma072 1m9ce9 1m8f39 1m8b73",
  "1m8a3f 1m7c20 1m7b19 1m6306 1ma680 1m78c8 1ma778 1ma789 1m7f3a 1m7b99 1m7567 1m62e4 1m6dda",
  "1m968c 1m8f5a 1m6e5f 1mab25 1m9d78 1m994e 1m85da 1m83f2 1ma64c 1m8069 1ma9a6 1m99bd 1mab5a",
  "1m8c9c 1m93f1 1m7c48 1ma5a8 1ma10e 1m826c 1m7525 1m6ec5 1m8db6 1m69c1 1m8cea 1m9675 1m768f",
  "1m95d5 1m8411 1maac9 1ma80f 1ma7b0 1m90f9 1m7c94 1m770d 1m6eab 1m67af 1ma68a 1ma53e 1ma00e",
  "1m9a96 1m93be 1m8986 1m805b 1m63d9 1m5f1d 1m5af1 1m5abb 1ma6ef 1m92c5 1m8e15 1m6a2b 1m9b1a",
  "1m97ff 1m9790 1m94f7 1m8a6f 1m884a 1m850b 1m7fcb 1m7ba2 1m7928 1m6a72 1m74ab 1m6977 1m6651",
  "1ma785 1ma6fa 1ma4e1 1m88d7 1m70de 1m6ef7 1m9ad9 1m99ae 1m9629 1m8df7 1m7d68 1m8632 1maac4",
  "1ma2b0 1m9dc3 1m9bf1 1m9990 1m85fb 1m8545 1m7a15 1m796a 1m677d 1m62bc 1m626b 1m619c 1maa2a",
  "1m8008 1m6803 1m6300 1m98d8 1mab34 1ma8e1 1m9dce 1m9d7e 1m9425 1m8fbd 1m87f2 1m837f 1m74c6",
  "1m6947 1m5a37 1m933d 1m6398 1ma73e 1m924d 1m91d6 1m8c89 1m8b2f 1m85c3 1m8474 1m8163 1m7cbf",
  "1m6172 1ma864 1m97a4 1m635b 1ma9a9 1m9cbc 1m8bec 1m6aad 1m9a4d 1m9895 1m91c3 1m8654 1m6356",
  "1ma7b4 1ma5cf 1m9d7a 1m93cd 1m9293 1m913a 1m8cfe 1m85de 1m8403 1m7a6d 1m7118 1m7107 1m681d",
  "1m6308 1ma6ac 1m8b32 1ma5d0 1m881e 1m8557 1m73f6 1m634e 1m5d9b 1m5b54 1m925d 1m8c2a 1m780e",
  "1m7f2c 1m7ed8 1m7d67 1m873a 1m8962 1m6ea4 1mab3d 1m76c8 1ma7c5 1ma7f9 1m9b5b 1m972f 1m7d2d",
  "1m9e7f 1m8ce7 1m9352 1m6acc 1m71bc 1m63bc 1m707f 1m9b38 1ma8cc 1ma44d 1v 2ma1b6 1v 1m939e 1v",
  "2ma837 1m86ec 1m834d 1m80dc 1m80bb 1m80b5 1m808c 1m62c6 1m7d5f 1m7a61 1v 1m740e 1v 1m6f2a 1v",
  "2m69ed 1m6929 1v 3m613b 1m612f 1m6104 1m5c79 1m6950 1m6378 1maa82 1ma94a 1ma8e5 1ma76a 1ma750",
  "1ma6e4 1ma499 1ma431 1ma3d0 1ma1f9 1ma192 1m9dd7 1m9dce 1m99a9 1m98d6 1m98b1 1m984e 1m94f2",
  "1m9460 1m93b2 1m91bf 1m8cce 1m8c2c 1m8b25 1m88da 1m881e 1m8628 1m81ba 1m810e 1m8104 1m8106",
  "1m80ff 1m80fa 1m80f4 1m80c5 2m8014 1m7fd4 1m7e96 1m7c63 1m7c4f 1m7c18 1m7ae8 1m7a56 1m786f",
  "1m77e4 1m77e5 1m7608 1m7150 1m70cb 1m6f61 1m6f2a 1m6d91 1m6d5d 1m6ab0 1m6a2f 1m6385 1m626a",
  "1m622f 1m99f6 1p14882 1m7855 1x 2mac4a 1ma8bc 1ma90a 1maaf3 1ma92f 1ma8f5 1ma7af 1ma77d 1ma4db",
  "1ma524 1ma4e1 1ma499 1ma222 1ma1ca 1ma13a 1ma12b 1ma01e 1m9f59 1m9bb0 1m9baa 1m9b1b 1m9ad8",
  "1m99ae 1m9939 1m9980 1m98fb 1m992a 1m9899 1m9858 1m96c9 1m9672 1m963d 1m953a 1m941d 1m937b",
  "1m9378 1m933e 1m8f1c 1m8edc 1m8d56 1m8bbd 1m8bce 1m8b78 1m8a7d 1m892e 1m82f6 1m8869 1m87f0",
  "1m8776 1m8630 1m859c 1m8568 1m8487 1m8486 1m83dc 1m83cc 1m83b4 1m835f 1m836a 1m81df 1m7ffb",
  "1m7eed 1m7e33 1m7d54 1m7cbc 1m7b73 1m7aad 1m7761 1m76c5 1m733c 1m7175 1m7131 1m7122 1m6ffa",
  "1m6fc2 1m6ff0 1m6fbb 1m6fbf 1m6fd1 1m6f86 1m6f36 1m6db9 1m6b8a 1m6a51 1m692b 1m684f 1m644a",
  "1m63e4 1m6372 1m62ee 1m62cb 1m62c0 1m6291 1m5fbb 1m5b32 1p12d7b 1p12d74 1p13904 1mbf35 1mbabb",
  "1mba9b 1p15774 1p161fa 1p183fc 1m5b95 1m5b4b 1x 26s66.66 1s66.69 1s66.6c 1s66.66.69 1s66.66.6c",
  "1s73.74 2x cs574.576 1s574.565 1s574.56b 1s57e.576 1s574.56d 1x 5s5d9.5b4 1v 1s5f2.5b7 1mf53e",
  "1mf551 1mf54f 2mf549 3mf53f 1mf53e 1mfafe 1s5e9.5c1 1s5e9.5c2 1s5e9.5bc.5c1 1s5e9.5bc.5c2",
  "1s5d0.5b7 1s5d0.5b8 1s5d0.5bc 1s5d1.5bc 1s5d2.5bc 1s5d3.5bc 1s5d4.5bc 1s5d5.5bc 1s5d6.5bc 1x",
  "1s5d8.5bc 1s5d9.5bc 1s5da.5bc 1s5db.5bc 1s5dc.5bc 1x 1s5de.5bc 1x 1s5e0.5bc 1s5e1.5bc 1x",
  "1s5e3.5bc 1s5e4.5bc 1x 1s5e6.5bc 1s5e7.5bc 1s5e8.5bc 1s5e9.5bc 1s5ea.5bc 1s5d5.5b9 1s5d1.5bf",
  "1s5db.5bf 1s5e4.5bf 1s5d0.5dc 1mf4df 1mf4e0 1mf4d7 1mf4d8 1mf4d9 1mf4da 1mf4d8 1mf4d9 1mf4da",
  "1mf4db 1mf4da 1mf4db 1mf4dc 1mf4dd 1mf4e4 1mf4e5 1mf4e6 1mf4e7 1mf4e3 1mf4e4 1mf4e5 1mf4e6",
  "1mf4ed 1mf4ee 1mf4ef 1mf4f0 1mf4c6 1mf4c7 1mf4c8 1mf4c9 1mf4c8 1mf4c9 1mf4ca 1mf4cb 1mf4ee",
  "1mf4ef 1mf4f0 1mf4f1 1mf4f3 1mf4f4 1mf4f5 1mf4f6 1mf4f4 1mf4f5 1mf4f6 1mf4f7 2mf4f8 1mf4f9",
  "1mf4fa 1mf4f5 1mf4f6 1mf4f8 1mf4f9 1mf4f8 1mf4f9 1mf500 1mf501 1mf4f2 1mf4f3 1mf4fb 1mf4fc",
  "1mf4e5 1mf4e6 1mf4e7 1mf4e8 1mf4e3 1mf4e4 1mf4e5 1mf4e6 1mf4e3 1mf4e4 1mf4e5 1mf4e6 1mf4e9",
  "1mf4ea 1mf4eb 1mf4ec 1mf4e4 1mf4e5 2mf4e6 1mf4e7 1mf4e8 1mf4e4 1mf4e5 2mf4e6 1mf4e7 1mf4e8",
  "1mf4ec 1mf4ed 1mf4ee 1mf4ef 1mf4dc 1mf4dd 2mf4de 1v 21mf526 1mf527 1mf528 1mf529 1mf510 1mf511",
  "1mf513 1mf514 1mf513 1mf514 1s6c7.674 1mf513 1mf514 1mf51b 1mf51c 1mf519 1mf51a 1mf514 1mf515",
  "1mf516 1mf517 1mf59f 1mf5a0 1s626.627 2s626.6d5 2s626.648 2s626.6c7 2s626.6c6 2s626.6c8",
  "2s626.6d0 3s626.649 3mf530 1mf531 1mf532 1mf533 1s626.62c 1s626.62d 1s626.645 1s626.649",
  "1s626.64a 1s628.62c 1s628.62d 1s628.62e 1s628.645 1s628.649 1s628.64a 1s62a.62c 1s62a.62d",
  "1s62a.62e 1s62a.645 1s62a.649 1s62a.64a 1s62b.62c 1s62b.645 1s62b.649 1s62b.64a 1s62c.62d",
  "1s62c.645 1s62d.62c 1s62d.645 1s62e.62c 1s62e.62d 1s62e.645 1s633.62c 1s633.62d 1s633.62e",
  "1s633.645 1s635.62d 1s635.645 1s636.62c 1s636.62d 1s636.62e 1s636.645 1s637.62d 1s637.645",
  "1s638.645 1s639.62c 1s639.645 1s63a.62c 1s63a.645 1s641.62c 1s641.62d 1s641.62e 1s641.645",
  "1s641.649 1s641.64a 1s642.62d 1s642.645 1s642.649 1s642.64a 1s643.627 1s643.62c 1s643.62d",
  "1s643.62e 1s643.644 1s643.645 1s643.649 1s643.64a 1s644.62c 1s644.62d 1s644.62e 1s644.645",
  "1s644.649 1s644.64a 1s645.62c 1s645.62d 1s645.62e 1s645.645 1s645.649 1s645.64a 1s646.62c",
  "1s646.62d 1s646.62e 1s646.645 1s646.649 1s646.64a 1s647.62c 1s647.645 1s647.649 1s647.64a",
  "1s64a.62c 1s64a.62d 1s64a.62e 1s64a.645 1s64a.649 1s64a.64a 1s630.670 1s631.670 1s649.670",
  "1s20.64c.651 1s20.64d.651 1s20.64e.651 1s20.64f.651 1s20.650.651 1s20.651.670 1s626.631",
  "1s626.632 1s626.645 1s626.646 1s626.649 1s626.64a 1s628.631 1s628.632 1s628.645 1s628.646",
  "1s628.649 1s628.64a 1s62a.631 1s62a.632 1s62a.645 1s62a.646 1s62a.649 1s62a.64a 1s62b.631",
  "1s62b.632 1s62b.645 1s62b.646 1s62b.649 1s62b.64a 1s641.649 1s641.64a 1s642.649 1s642.64a",
  "1s643.627 1s643.644 1s643.645 1s643.649 1s643.64a 1s644.645 1s644.649 1s644.64a 1s645.627",
  "1s645.645 1s646.631 1s646.632 1s646.645 1s646.646 1s646.649 1s646.64a 1s649.670 1s64a.631",
  "1s64a.632 1s64a.645 1s64a.646 1s64a.649 1s64a.64a 1s626.62c 1s626.62d 1s626.62e 1s626.645",
  "1s626.647 1s628.62c 1s628.62d 1s628.62e 1s628.645 1s628.647 1s62a.62c 1s62a.62d 1s62a.62e",
  "1s62a.645 1s62a.647 1s62b.645 1s62c.62d 1s62c.645 1s62d.62c 1s62d.645 1s62e.62c 1s62e.645",
  "1s633.62c 1s633.62d 1s633.62e 1s633.645 1s635.62d 1s635.62e 1s635.645 1s636.62c 1s636.62d",
  "1s636.62e 1s636.645 1s637.62d 1s638.645 1s639.62c 1s639.645 1s63a.62c 1s63a.645 1s641.62c",
  "1s641.62d 1s641.62e 1s641.645 1s642.62d 1s642.645 1s643.62c 1s643.62d 1s643.62e 1s643.644",
  "1s643.645 1s644.62c 1s644.62d 1s644.62e 1s644.645 1s644.647 1s645.62c 1s645.62d 1s645.62e",
  "1s645.645 1s646.62c 1s646.62d 1s646.62e 1s646.645 1s646.647 1s647.62c 1s647.645 1s647.670",
  "1s64a.62c 1s64a.62d 1s64a.62e 1s64a.645 1s64a.647 1s626.645 1s626.647 1s628.645 1s628.647",
  "1s62a.645 1s62a.647 1s62b.645 1s62b.647 1s633.645 1s633.647 1s634.645 1s634.647 1s643.644",
  "1s643.645 1s644.645 1s646.645 1s646.647 1s64a.645 1s64a.647 1s640.64e.651 1s640.64f.651",
  "1s640.650.651 1s637.649 1s637.64a 1s639.649 1s639.64a 1s63a.649 1s63a.64a 1s633.649 1s633.64a",
  "1s634.649 1s634.64a 1s62d.649 1s62d.64a 1s62c.649 1s62c.64a 1s62e.649 1s62e.64a 1s635.649",
  "1s635.64a 1s636.649 1s636.64a 1s634.62c 1s634.62d 1s634.62e 1s634.645 1s634.631 1s633.631",
  "1s635.631 1s636.631 1s637.649 1s637.64a 1s639.649 1s639.64a 1s63a.649 1s63a.64a 1s633.649",
  "1s633.64a 1s634.649 1s634.64a 1s62d.649 1s62d.64a 1s62c.649 1s62c.64a 1s62e.649 1s62e.64a",
  "1s635.649 1s635.64a 1s636.649 1s636.64a 1s634.62c 1s634.62d 1s634.62e 1s634.645 1s634.631",
  "1s633.631 1s635.631 1s636.631 1s634.62c 1s634.62d 1s634.62e 1s634.645 1s633.647 1s634.647",
  "1s637.645 1s633.62c 1s633.62d 1s633.62e 1s634.62c 1s634.62d 1s634.62e 1s637.645 1s638.645",
  "1s627.64b 2v 12s62a.62c.645 1s62a.62d.62c 2s62a.62d.645 1s62a.62e.645 1s62a.645.62c",
  "1s62a.645.62d 1s62a.645.62e 1s62c.645.62d 2s62d.645.64a 1s62d.645.649 1s633.62d.62c",
  "1s633.62c.62d 1s633.62c.649 1s633.645.62d 2s633.645.62c 1s633.645.645 2s635.62d.62d",
  "2s635.645.645 1s634.62d.645 2s634.62c.64a 1s634.645.62e 2s634.645.645 2s636.62d.649",
  "1s636.62e.645 2s637.645.62d 2s637.645.645 1s637.645.64a 1s639.62c.645 1s639.645.645",
  "2s639.645.649 1s63a.645.645 1s63a.645.64a 1s63a.645.649 1s641.62e.645 2s642.645.62d",
  "1s642.645.645 1s644.62d.645 1s644.62d.64a 1s644.62d.649 1s644.62c.62c 2s644.62e.645",
  "2s644.645.62d 2s645.62d.62c 1s645.62d.645 1s645.62d.64a 1s645.62c.62d 1s645.62c.645",
  "1s645.62e.62c 1s645.62e.645 1v 2s645.62c.62e 1s647.645.62c 1s647.645.645 1s646.62d.645",
  "1s646.62d.649 1s646.62c.645 2s646.62c.649 1s646.645.64a 1s646.645.649 1s64a.645.645",
  "2s628.62e.64a 1s62a.62c.64a 1s62a.62c.649 1s62a.62e.64a 1s62a.62e.649 1s62a.645.64a",
  "1s62a.645.649 1s62c.645.64a 1s62c.62d.649 1s62c.645.649 1s633.62e.649 1s635.62d.64a",
  "1s634.62d.64a 1s636.62d.64a 1s644.62c.64a 1s644.645.64a 1s64a.62d.64a 1s64a.62c.64a",
  "1s64a.645.64a 1s645.645.64a 1s642.645.64a 1s646.62d.64a 1s642.645.62d 1s644.62d.645",
  "1s639.645.64a 1s643.645.64a 1s646.62c.62d 1s645.62e.64a 1s644.62c.645 1s643.645.645",
  "1s644.62c.645 1s646.62c.62d 1s62c.62d.64a 1s62d.62c.64a 1s645.62c.64a 1s641.645.64a",
  "1s628.62d.64a 1s643.645.645 1s639.62c.645 1s635.645.645 1s633.62e.64a 1s646.62c.64a 1v 8x",
  "20s635.644.6d2 1s642.644.6d2 1s627.644.644.647 1s627.643.628.631 1s645.62d.645.62f",
  "1s635.644.639.645 1s631.633.648.644 1s639.644.64a.647 1s648.633.644.645 1s635.644.649",
  "1s635.644.649.20.627.644.644.647.20.639.644.64a.647.20.648.633.644.645",
  "1s62c.644.20.62c.644.627.644.647 1s631.6cc.627.644 1v 3i 10mfde4 1mce10 1x 1mfdd9 2mfdf4 1mfdd7",
  "1mce01 2x 7v 10x 1mde1d 1mde1f 1mfdd4 1mfdd5 1mfe0d 2mfdbc 1mfdbb 1mce25 2mce2b 2mce33 2mce37",
  "2mce35 4v 2mfdec 1mfdeb 1s20.305 4mfdee 1mfdef 1mfdf0 1mfe24 1mce50 1x 2mfe19 1mfe1b 1mfe17",
  "1mfe36 1mde44 1mfe31 2mfde0 1mfddf 1mce49 2mfe3c 1mfe3a 1mfe37 2mfe36 1mfe28 1mfe27 1mfe29 1x",
  "1mfe0c 1mfe45 2mfe2b 1x 4s20.64b 1s640.64b 1s20.64c 1v 1s20.64d 1x 1s20.64e 1s640.64e 1s20.64f",
  "1s640.64f 1s20.650 1s640.650 1s20.651 1s640.651 1s20.652 1s640.652 1mf85f 2mf860 2mf861 2mf862",
  "2mf863 2mf864 1mf865 1mf866 2mf867 2mf868 1mf869 1mf86a 2mf86b 2mf86c 1mf86d 1mf86e 2mf86f",
  "1mf870 1mf871 2mf872 1mf873 1mf874 2mf875 1mf876 1mf877 2mf878 1mf879 1mf87a 2mf87b 2mf87c",
  "2mf87d 2mf87e 2mf87f 1mf880 1mf881 2mf882 1mf883 1mf884 2mf885 1mf886 1mf887 2mf888 1mf889",
  "1mf88a 2mf88b 1mf88c 1mf88d 2mf88e 1mf88f 1mf890 2mf891 1mf892 1mf893 2mf894 1mf895 1mf896",
  "1mf890 1mf891 1mf892 1mf893 2mf894 1mf895 1mf896 2mf897 1mf898 1mf899 2mf89a 1mf89b 1mf89c",
  "2mf89d 1mf89e 1mf89f 2mf8a0 1mf8a1 1mf8a2 2mf8a3 1mf8a4 1mf8a5 2mf8a6 2mf8a7 2mf8a8 1mf8a9",
  "1mf8aa 1s644.622 2s644.623 2s644.625 2s644.627 2x 2i 1x 1mfee0 20mfec0 1amfee0 24md5da 2mff33",
  "1mcf56 2mcf63 1mce6a 1mce74 1mcec6 1mcec5 1mcec4 1mcec3 1mcec2 1mce89 1mce88 1mce87 1mceac",
  "1mce74 1mcecf 1mcece 1mcecd 1mcecc 1mcecb 2mceca 1mcec9 1mcec8 1mcec7 1mcec6 1mcec5 1mcec4",
  "1mcec3 1mcec2 1mcec1 1mcec0 1mcebe 1mcebd 1mcebc 1mcebb 6mceb9 1mceb7 1mceb5 1mceb3 1mceb1",
  "5mceb0 1mceaf 1mceae 6mcead 1mceaa 1mcf05 2i 1meea1 2medf9 1meea2 1medf9 2meea4 3medfa 6mee96",
  "1meeab 3mee93 1meeac ax 3mee61 6x 2mee63 6x 2mee65 6x 2mee67 3x 3mff3e 2mff36 1s20.304 1mff3e",
  "1mff40 1mdf3d 1x 1mdae6 1mde59 4mda4d 1mda23 1x 11v cx 1v 1ax 1v 13x 1v 2x 1v fx 2v ex 22v 7bx",
  "5v 3x 4v 2dx 3v 58x 1v dx 3v 1x 2fv 2ex 82v 1dx 3v 31x fv 1cx 4v 24x 9v 1ex 5v 2bx 5v 1ex 1v 25x",
  "4v ex 2ap28 28v 76x 2v ax 6p28 24x 4v 24x 4v 28x 8v 34x bv 1p27 bx 1p27 fx 1p27 7x 1p27 2x 1v bx",
  "1v fx 1v 7x 1v 2x 3v 34x cv 137x 9v 16x av 8x 18v 1m104b1 2m1069d 1m104eb 1m10532 1x 1m104e4",
  "1m5c22 1m104e4 1m104e6 1m10535 2me9fc 1m10536 1m10531 1m104e7 1m1052d 1m10530 1m10533 1m104f9",
  "1m1066e 1m104fa 1m10530 1m10514 1m104ef 2m1052f 1pd768 1m600f 1m10530 1pd766 1m10512 1pd765",
  "1m106aa 1m1052d 2m10734 1m1052c 1pd761 1m1052b 2m1052a 1m10503 1m10506 1m5c46 1m10507 1m10527",
  "1mdb3f 1x 1m10523 1m10512 2m1051d 1m105f6 3pd751 1pd764 1x 45v 6x 2v 1x 1v 2cx 1v 2x 3v 1x 2v",
  "17x 1v 48x 8v 9x 30v 13x 1v 2x 5v 21x 3v 1bx 5v 1bx 26v 38x 4v 14x 2v 32x 1v 2x 5v 8x 1v 3x 1v",
  "1dx 2v 3x 4v ax 7v 9x 7v 40x 20v 27x 4v cx 9v 36x 3v 1dx 2v 1bx 5v 1ax 7v 4x cv 7x 50v 49x 37p40",
  "33x dv 33x 7v 2ex 8v ax 6v 10p20 16x 3v 1dx 8v 2x d0v 1fx 1v 2ax 1v 3x 2v 2x 10v 6x 8v 9x 21v",
  "2ex 8v 2ax 16v 1ax 26v 1cx 14v 17x 9v 4ex 4v 24x 9v 3ex 1v 5x dv 19x 7v ax 6v 35x 1v 12x 8v 27x",
  "9v 60x 1v 14x bv 12x 1v 2fx 3ev 7x 1v 1x 1v 4x 1v fx 1v bx 6v 3bx 5v ax 6v 4x 1v 8x 2v 2x 2v 16x",
  "1v 7x 1v 2x 1v 5x 1v ax 2v 2x 2v 3x 2v 1x 6v 1x 5v 7x 2v 7x 3v 5x bv ax 1v 1x 2v 1x 1v 26x 1v ax",
  "1v 1x 2v 1x 1v 4x 1v ax 1v 2x 8v 2x 1dv 5cx 1v 5x 1ev 48x 8v ax a6v 36x 2v 26x 22v 45x bv ax 6v",
  "dx 13v 3ax 6v ax 6v 14x 1cv 1bx 2v fx 4v 17x b9v 3cx 64p20 20v 33x cv 8x 2v 1x 2v 8x 1v 2x 1v",
  "1ex 1v 2x 2v cx 9v ax 46v 8x 2v 2ex 2v bx 1bv 48x 8v 53x dv 49x 7v ax 56v 8x 58v 22x ev ax 6v 9x",
  "1v 2dx 1v ex av 1dx 3v 20x 2v 16x 1v ex 49v 7x 1v 2x 1v 2cx 3v 1x 1v 2x 1v 9x 8v ax 6v 6x 1v 2x",
  "1v 25x 1v 2x 1v 6x 7v ax 6v 2cx 4v ax f6v 19x 7v 11x 1v 29x 3v 1dx 55v 1x fv 32x dv 39bx 66v 6fx",
  "1v 5x bv c4x a4cv 63x dv 430x 10v 16x av f9bx 5v 247x 1ab9v 3ax 6c6v 239x 7v 1fx 1v ax 4v 51x 1v",
  "ax 6v 1ex 2v 6x av 46x av ax 1v 7x 1v 15x 5v 13x 1b0v 3ax c6p20 20v 3bx 5p1b 19x 2v 19x 2cv 4bx",
  "4v 39x 7v 11x 40v 5x bv 7x 9v 1cd6x 29v 20x 61v 73x 21fdv 4x 1v 7x 1v 2x 1v 123x fv 1x 1dv 3x 2v",
  "1x ev 4x 8v 18cx 904v 6bx 5v dx 3v 9x 7v ax 2v 4i 4x f5cv d6m1cc75 1am1ccc0 av 3x 3v 1b4x 6v 17x",
  "fv 11x fv 2ex 2v 17x 9v 74x 3cv f6x av 27x 2v 35s1d157.1d165 1s1d158.1d165 1s1d158.1d165.1d16e",
  "1s1d158.1d165.1d16f 1s1d158.1d165.1d170 1s1d158.1d165.1d171 1s1d158.1d165.1d172 1v ei 8v",
  "40s1d1b9.1d165 1s1d1ba.1d165 1s1d1b9.1d165.1d16e 1s1d1ba.1d165.1d16e 1s1d1b9.1d165.1d16f",
  "1s1d1ba.1d165.1d16f 1v 2ax 15v 46x 7av 14x cv 14x cv 57x 9v 19x 87m1d39f 1am1d3b9 1am1d3d3",
  "1am1d3ed 7x 1m1d3ed 12m1d407 1am1d421 1am1d43b 1x 1m1d43b 2x 2m1d43b 1x 2m1d43b 2x 2m1d43b 4x",
  "1m1d43b 8m1d455 4x 1m1d455 1x 1m1d455 7x 1m1d455 bm1d46f 1am1d489 1am1d4a3 2x 1m1d4a3 4x 2m1d4a3",
  "8x 1m1d4a3 7x 1m1d4bd 1am1d4d7 2x 1m1d4d7 4x 1m1d4d7 5x 1m1d4d7 1x 3m1d4d7 7x 1m1d4f1 1am1d50b",
  "1am1d525 1am1d53f 1am1d559 1am1d573 1am1d58d 1am1d5a7 1am1d5c1 1am1d5db 1am1d5f5 1am1d60f",
  "1am1d629 1am1d573 1m1d46e 1x 2m1d2f7 11m1d301 1m1d2f7 7m1b4ba 1m1d311 11m1d310 1m1d311 7m1b4d9",
  "1m1d327 1m1d325 1m1d324 1m1d319 1m1d31f 1m1d321 1m1d331 11m1d33b 1m1d331 7m1b4f4 1m1d34b",
  "11m1d34a 1m1d34b 7m1b513 1m1d361 1m1d35f 1m1d35e 1m1d353 1m1d359 1m1d35b 1m1d36b 11m1d375",
  "1m1d36b 7m1b52e 1m1d385 11m1d384 1m1d385 7m1b54d 1m1d39b 1m1d399 1m1d398 1m1d38d 1m1d393 1m1d395",
  "1m1d3a5 11m1d3af 1m1d3a5 7m1b568 1m1d3bf 11m1d3be 1m1d3bf 7m1b587 1m1d3d5 1m1d3d3 1m1d3d2",
  "1m1d3c7 1m1d3cd 1m1d3cf 1m1d3df 11m1d3e9 1m1d3df 7m1b5a2 1m1d3f9 11m1d3f8 1m1d3f9 7m1b5c1",
  "1m1d40f 1m1d40d 1m1d40c 1m1d401 1m1d407 1m1d409 1m1d3ed 1m1d3ee 1x 2m1d79e am1d7a8 am1d7b2",
  "am1d7bc am1d7c6 av 28cx fv 5x 1v fx 450v 1fx 6v 6x d5v 7x 1v 11x 2v 7x 1v 2x 1v 5x 5m1dc00",
  "9m1dbff 3m1dbfe bm1dbfc 1m1dbfb 2m139c1 1m1db72 1m1dbf6 1m1dbf5 1m1db65 1m1dba0 1m1db81 1m1dc21",
  "9m1dc20 2m1dc1e 2m1dc1d 1m1dc1c 6m1dc1b 2m1dbd6 1m1dc12 1m1dc14 1m1dc0b 1m1dbc0 1m13a1b 1m1dbbc",
  "1x 21v 1x 70v 2dx 3v ex 2v ax 4v 2x 140v 1fx 11v 3ax 5v 1x 1d0v 2ax d6v 2bx 4v 1x c0v 1fx 1v 16x",
  "8v 2x e0v 7x 1v 4x 1v 2x 1v fx 1v c5x 2v 10x 29p22 22v 2ax 4v ax 4v 2x 311v 44x 4cv 3dx c2m1e7d9",
  "2m1e7d6 1m1e7d4 1x 1m1e7bd 1m1e7d4 1m1e7da 1m1e7d1 1m1e7bf 1m1e7c7 4m1e7db 1m1e7d6 1m1e7cf",
  "1m1e7dc 1m1e7d0 1m1e7e2 1m1e7e0 1m1e7eb 2m1e7e9 1m1e7e8 1m1e7e3 1m1e7e2 1m1e7e1 1m1e7ae 1m1e763",
  "1m1e77d 1m1e7b0 1x 1m1e7f9 1m1e7f6 1x 1m1e7dd 1x 2m1e7fa 1x 1m1e7df 1m1e7e7 4m1e7fb 1m1e7f6",
  "1m1e7ef 1m1e7fc 1m1e7f0 1x 1m1e800 1m1e80b 2m1e809 1x 1m1e803 1x 1m1e801 1x 6m1e816 1x 4m1e81a",
  "1x 1m1e7ff 1x 1m1e807 1x 1m1e807 1m1e81b 1m1e816 1x 1m1e81c 1m1e810 1x 1m1e820 1x 2m1e829 1x",
  "1m1e823 1x 1m1e821 1x 1m1e7a3 1x 1m1e7f0 1x 1m1e839 1m1e836 1x 1m1e81d 1x 2m1e83a 1m1e831",
  "1m1e81f 1m1e827 1x 1m1e827 2m1e83b 1m1e836 1m1e82f 1m1e83c 1m1e830 1x 1m1e840 1m1e84b 2m1e849 1x",
  "1m1e843 1m1e842 1m1e841 1m1e80e 1x 1m1e7dd 1x 1m1e859 2m1e856 1m1e854 1m1e83d 2m1e854 1m1e85a",
  "1m1e851 1m1e83f 1x 1m1e847 3m1e85b 1m1e856 1m1e84f 1m1e85c 1m1e850 1m1e862 1m1e860 1m1e86b",
  "2m1e869 1m1e868 1m1e863 1m1e862 1m1e861 1x 5m1e879 1m1e876 1m1e874 1x 1m1e85d 1m1e874 1m1e87a",
  "1m1e871 1m1e85f 1x 1m1e867 3m1e87b 1m1e876 1m1e86f 1m1e87c 1m1e870 1m1e882 1m1e880 1m1e88b",
  "2m1e889 1m1e888 1m1e883 1m1e882 1m1e881 1x 34v 2x 10ev 2cx 4v 64x cv fx 2v fx 1v fx 1v 25x",
  "bs30.2c 1s31.2c 1s32.2c 1s33.2c 1s34.2c 1s35.2c 1s36.2c 1s37.2c 1s38.2c 1s39.2c 1v 5s28.61.29",
  "1s28.62.29 1s28.63.29 1s28.64.29 1s28.65.29 1s28.66.29 1s28.67.29 1s28.68.29 1s28.69.29",
  "1s28.6a.29 1s28.6b.29 1s28.6c.29 1s28.6d.29 1s28.6e.29 1s28.6f.29 1s28.70.29 1s28.71.29",
  "1s28.72.29 1s28.73.29 1s28.74.29 1s28.75.29 1s28.76.29 1s28.77.29 1s28.78.29 1s28.79.29",
  "1s28.7a.29 1s3014.73.3015 1m1f0c8 1m1f0ba 1s63.64 1s77.7a 1v 1m1f0cf 1as68.76 1s6d.76 1s73.64",
  "1s73.73 1s70.70.76 1s77.63 1v 1as6d.63 1s6d.64 1s6d.72 1v 23s64.6a 1v 1dx 38v 1as307b.304b",
  "1s30b3.30b3 1m1c14d 1x dm18fc5 1m196ba 1m19e46 1m1c14c 1m1a388 1m198fb 1m16833 1m198ee 1m1a374",
  "1m18bf9 1m180f9 1m18c82 1m19fcf 1m19291 1m1a091 1m18c6f 1m1a003 1m174df 1m17d03 1m1657a 1m19934",
  "1m19dec 1m18312 1m18f92 1m18ed3 1m1a429 1m1a421 1m161e1 1m19446 1m1a400 1m19e3b 1m18f28 1m164c0",
  "1m18fde 1m178b1 1m177b9 1m19e2c 1m183b5 1m18b2d 1m18b2f 1m17d05 1m19fc7 1m19c84 1m160ee 1x",
  "4s3014.672c.3015 1s3014.4e09.3015 1s3014.4e8c.3015 1s3014.5b89.3015 1s3014.70b9.3015",
  "1s3014.6253.3015 1s3014.76d7.3015 1s3014.52dd.3015 1s3014.6557.3015 1x 7m192b9 1m19e62 1x ev 6x",
  "9av 3d9x 3v 11x 3v dx 3v dax 6v cx 4v 1x fv cx 4v 38x 8v ax 6v 28x 8v 1ex 2v cx 4v 2x ev 9x 27v",
  "158x 8v ex 2v dx 3v bx 3v 39x 1v 1x 4v 10x 2v cx 4v ax 7v 93x 1v 5cm1fbc0 av 1x 405v a6e0x 20v",
  "111ex 2v 168ex 2v 1d31x fv 26ex 9a2m2a9c3 1m2a9c9 1m2a9c1 1mf6e1 1m2a8a4 1m2a857 1m2a84b 1m2a805",
  "1m2a78e 1m2a770 1m2a723 1m2a73c 1m2c36e 1mf1d3 1m2a6c1 1m2a6bb 1m2a6ac 1m2a69a 1mf2f6 1m2c35a",
  "1m2a6ad 1m2a688 1mf2cb 1m2a680 1m2a674 1m2a94d 1m2a66e 1m2a666 1m663d 1m2a628 1m2a61b 1m2c340",
  "1m2a5e5 1m2a5db 1m2a5b0 1m2a5ac 1m2c30f 1m2a55e 1m2a55d 1m2a543 1m2a52e 1m2a524 2m2a514 1m2a4e3",
  "1m2a4dc 1m2a4d4 1m2a4bc 1m2a4b3 1m2a4b2 1m2a4b3 1m2a4b4 1mee08 1m287c5 1m2a46c 1m2a458 1mecd5",
  "1m2a44e 1m2a449 1m2a435 1m2a39e 1m2a405 1m2a3f6 1m2a3d7 1m2a39e 1m2a34b 1m2a332 1m2a2f0 1m2a2e1",
  "1m2a2c1 1m2a2c2 1m2a2ae 1m2a29d 1m2a296 1m2a288 1m2a135 1m2a246 1m2a136 1m2a1fd 1m2a1db 1m2a649",
  "1m29f63 1m2a084 1m2a05f 1m2a047 1m2a0ca 1m2a024 1m2a026 1m29fac 1me375 1m29f68 1m29f64 1m29f56",
  "1m29f43 1m29f3c 1m29efd 1me1b8 1me177 1m29e76 1m29e48 1m29e3d 1m29e8d 1m29e00 1m2c179 1m2c16c",
  "1m29d61 1m29d2c 1m29d2d 1mdea4 1m29caa 1m29c96 1m29c88 1m29c7d 1mdd59 1m29c73 1m29c6d 1m29921",
  "1m29c53 1m2c0f5 1m29c17 1m29c0a 1m29bb9 1m29bed 1mda97 1m29b39 1mda97 1m29b10 1m29b14 1m29b04",
  "1m29aa0 2m2c054 1m29a87 1m29a5d 1m29a49 1m29a1e 1m2c026 1md706 1m2c00e 1m299db 1m299d9 1m299d7",
  "1m299c4 1m54fd 1m29992 1md560 1md561 1m27692 1m29972 1m29973 1m2bfcf 1mc5df 1m96be 1m29937",
  "1m2992f 1m2bfb8 1m29902 1m298d0 1m298c7 1m298a6 1m2981f 1m2bf67 1m2bf86 1m2980f 1md1d0 1m297de",
  "1m2975e 1m2975b 1m2975a 1m2975d 1m29730 1m2971d 1m296fa 1m29709 1m296ff 1m296d1 1m296be 1m296bb",
  "1m296a2 1m29698 1m29657 1m29604 1m295e2 1m29567 1mcdac 1m2957c 1m295be 1m29553 1m29539 1m294d9",
  "1mcccd 1m2949d 1m294fb 1m29518 1m2be94 1m2945a 1m29446 1m29428 1m2944f 1m2be5b 1m29379 1m2935d",
  "1mc8c0 1m292e8 1m291d4 1m29284 1m2bdb5 1m2923e 1m2bdc8 1m2bded 1m2a740 1m2a73e 1m291d4 1m29239",
  "1m27829 1m2b4fe 1m291c1 1m291be 1m291b9 1m2917d 1m29189 1mc51a 1m2bd95 1m290e5 1m2915b 1m2908f",
  "1m2905d 1mc476 1m29056 1m290c6 1m28fd2 1m2bd4a 1m28fa6 1m28f46 1m28f00 1m28e43 1mc249 1m28e12",
  "1m2bcd6 1m28dce 1mc049 1m28d9d 1m2bca4 1m28d81 1m28d55 1m28d3b 2mbe6a 1mdbed 1mbdff 1m28cac",
  "1mbc3f 1m28c3d 1m28c30 1m28c97 1m28be9 1m28bc2 1m28b8a 1m28bc1 1m28b9a 1m28b8c 1m28b80 1mbbe8",
  "1m28bd3 1m28ad9 1m28a9b 1m2bbd7 1m28a40 1m28a45 1mba3c 1m28b15 1m289a1 1mb9b2 1mb983 1m2894c",
  "1m288da 1m288f6 1m288fa 1m2bb80 1m288cd 1m2889b 1m288a2 1m2886d 1mf3f6 1m287d7 1mb6ba 1m28782",
  "1mb574 1m286f8 1m286ec 1m286d2 1mb31b 1m286a4 1m28690 1mb1f1 1mb113 1m285ae 1m2859e 1m2ba7e",
  "1m28586 1m2ba74 1m2ba75 1m284e7 1m284d3 1m284bf 1m284ac 1m28468 1m2ba18 1m28410 1macff 1m283f8",
  "1maca5 1m283c8 1md79a 1m2832a 1ma99a 1ma984 1ma8f9 1m2b942 1m2b937 1m2824c 1ma84e 1ma850 1ma82a",
  "1ma811 1m28227 2m28228 1m281fe 1m2b910 1m281bf 1m2b905 1m2b8b6 1ma530 1m28100 1m280c3 1m28084",
  "1m2b86e 1ma32c 1m27ffd 1ma2ba 1ma290 1m27fc7 1m27f6c 1m2b829 1m27f19 1m27f10 1m27f0c 1m9fe0",
  "1m9eb6 1m9eb7 1m27e71 1m2b75e 1m9db6 1m27d9c 1m27d9a 1m2b73d 1m9ce5 1m27c94 1m2b6c7 1m27c80",
  "1m27c86 1m27c6a 1m99e5 1m27c09 1m2b66c 1m27ba7 1m27b6d 1m27b2b 1m2b63d 1m974a 1m972c 1m2b61b",
  "1m969c 1m279fc 1m9639 1m279e3 1m2797f 1m27975 1m94a1 1m9459 1m2791d 1m93d6 1m2790f 1mc621",
  "1m2b5ac 1m278d0 1m27880 1m2b579 1m27847 1m29ed1 1m91e0 1m91d3 1mc5f6 1mc5ee 1m2778a 1m27788",
  "1m269ef 1m2b523 1m276fe 1m27705 1m276f4 1m2a6df 1m276e2 1m276e1 1m276d8 1m276b0 1m8e5b 1m276b3",
  "1m2767c 1m27637 1m275ee 1m27679 1m275e0 1m275b7 1m27548 1m2764d 1m275d7 1m275d6 1m275c7 1m8d6e",
  "1m8c3a 1m8cd1 1m2b47c 1m274b7 1m274b6 1m27494 1m85e1 1m27448 1m8a81 1m2b451 1m2b44e 1m89ff",
  "1m88df 1m2b447 1m27363 1m27358 1m2734e 1m2734d 1m2730e 1m27330 1m272ab 1m272d8 1m27242 1m27294",
  "1m27252 1m27238 1m2b3e8 1m271df 1m271c0 1m2b3c9 1m27163 1m27161 1m835e 1m270ef 1m270e9 1m2b393",
  "1m270cf 1m2c50f 1m811d 1m8066 1m2b30f 1m2b307 1m26f2f 1m26ee3 1m26e47 1m26d7d 1m7d2b 1m26d29",
  "1m26d14 1m26cbb 1m26c60 1m7aa9 1mf1d5 1m26c0f 1m26c1f 1m26bec 1mf0ff 1m26b0a 1m26aa7 1m740e",
  "1m73f4 1m2694e 1m268f2 1m268d3 1m72b7 1m268cb 1m267af 1m26711 2m2676e 1m265f2 1m265d7 1m6df3",
  "1m26463 1m2b05a 1m26439 1m6c7a 1m2b00c 1m26330 1m29c42 1m262d2 1m68b1 1m67dd 1m2af8a 1m2af83",
  "1m2621a 1m65f1 1m2af4a 1m6567 1m261f3 1m261f4 1m261d7 1m644b 1m26120 1m2aed0 1m260db 1m2605e",
  "1m26044 1m26009 1m2ae3a 1m5ed9 1m25ef8 1m25dcb 1m25d0f 1m2ad3f 1m2ad21 1m25ca8 1m5942 1m2ad19",
  "1m590d 1m5805 1m5783 1m25b5a 1m2acc0 1m25b1e 1m25b1a 1m25b14 1m25b0b 1m25b05 1m25ae1 1m541d 1x",
  "5e2v 134bx 5v 212ax acc86i f0x"
]

end LiveTail.Idna

/-! The data of canonical normalisation: canonical decompositions in full, primary composites by
their pairs, and canonical combining classes. Hangul syllables are not listed. -/
namespace LiveTail.Text.Normal

def decompositionRows : List String := [
  "c0s41.300 1s41.301 1s41.302 1s41.303 1s41.308 1s41.30a 1v 1s43.327 1s45.300 1s45.301 1s45.302",
  "1s45.308 1s49.300 1s49.301 1s49.302 1s49.308 1v 1s4e.303 1s4f.300 1s4f.301 1s4f.302 1s4f.303",
  "1s4f.308 1v 2s55.300 1s55.301 1s55.302 1s55.308 1s59.301 1v 2s61.300 1s61.301 1s61.302 1s61.303",
  "1s61.308 1s61.30a 1v 1s63.327 1s65.300 1s65.301 1s65.302 1s65.308 1s69.300 1s69.301 1s69.302",
  "1s69.308 1v 1s6e.303 1s6f.300 1s6f.301 1s6f.302 1s6f.303 1s6f.308 1v 2s75.300 1s75.301 1s75.302",
  "1s75.308 1s79.301 1v 1s79.308 1s41.304 1s61.304 1s41.306 1s61.306 1s41.328 1s61.328 1s43.301",
  "1s63.301 1s43.302 1s63.302 1s43.307 1s63.307 1s43.30c 1s63.30c 1s44.30c 1s64.30c 1v 2s45.304",
  "1s65.304 1s45.306 1s65.306 1s45.307 1s65.307 1s45.328 1s65.328 1s45.30c 1s65.30c 1s47.302",
  "1s67.302 1s47.306 1s67.306 1s47.307 1s67.307 1s47.327 1s67.327 1s48.302 1s68.302 1v 2s49.303",
  "1s69.303 1s49.304 1s69.304 1s49.306 1s69.306 1s49.328 1s69.328 1s49.307 1v 3s4a.302 1s6a.302",
  "1s4b.327 1s6b.327 1v 1s4c.301 1s6c.301 1s4c.327 1s6c.327 1s4c.30c 1s6c.30c 1v 4s4e.301 1s6e.301",
  "1s4e.327 1s6e.327 1s4e.30c 1s6e.30c 1v 3s4f.304 1s6f.304 1s4f.306 1s6f.306 1s4f.30b 1s6f.30b 1v",
  "2s52.301 1s72.301 1s52.327 1s72.327 1s52.30c 1s72.30c 1s53.301 1s73.301 1s53.302 1s73.302",
  "1s53.327 1s73.327 1s53.30c 1s73.30c 1s54.327 1s74.327 1s54.30c 1s74.30c 1v 2s55.303 1s75.303",
  "1s55.304 1s75.304 1s55.306 1s75.306 1s55.30a 1s75.30a 1s55.30b 1s75.30b 1s55.328 1s75.328",
  "1s57.302 1s77.302 1s59.302 1s79.302 1s59.308 1s5a.301 1s7a.301 1s5a.307 1s7a.307 1s5a.30c",
  "1s7a.30c 1v 21s4f.31b 1s6f.31b 1v ds55.31b 1s75.31b 1v 1cs41.30c 1s61.30c 1s49.30c 1s69.30c",
  "1s4f.30c 1s6f.30c 1s55.30c 1s75.30c 1s55.308.304 1s75.308.304 1s55.308.301 1s75.308.301",
  "1s55.308.30c 1s75.308.30c 1s55.308.300 1s75.308.300 1v 1s41.308.304 1s61.308.304 1s41.307.304",
  "1s61.307.304 1sc6.304 1se6.304 1v 2s47.30c 1s67.30c 1s4b.30c 1s6b.30c 1s4f.328 1s6f.328",
  "1s4f.328.304 1s6f.328.304 1s1b7.30c 1s292.30c 1s6a.30c 1v 3s47.301 1s67.301 1v 2s4e.300 1s6e.300",
  "1s41.30a.301 1s61.30a.301 1sc6.301 1se6.301 1sd8.301 1sf8.301 1s41.30f 1s61.30f 1s41.311",
  "1s61.311 1s45.30f 1s65.30f 1s45.311 1s65.311 1s49.30f 1s69.30f 1s49.311 1s69.311 1s4f.30f",
  "1s6f.30f 1s4f.311 1s6f.311 1s52.30f 1s72.30f 1s52.311 1s72.311 1s55.30f 1s75.30f 1s55.311",
  "1s75.311 1s53.326 1s73.326 1s54.326 1s74.326 1v 2s48.30c 1s68.30c 1v 6s41.307 1s61.307 1s45.327",
  "1s65.327 1s4f.308.304 1s6f.308.304 1s4f.303.304 1s6f.303.304 1s4f.307 1s6f.307 1s4f.307.304",
  "1s6f.307.304 1s59.304 1s79.304 1v 10cs300 1s301 1v 1s313 1s308.301 1v 2fs2b9 1v 9s3b 1v 6sa8.301",
  "1s391.301 1sb7 1s395.301 1s397.301 1s399.301 1v 1s39f.301 1v 1s3a5.301 1s3a9.301 1s3b9.308.301",
  "1v 19s399.308 1s3a5.308 1s3b1.301 1s3b5.301 1s3b7.301 1s3b9.301 1s3c5.308.301 1v 19s3b9.308",
  "1s3c5.308 1s3bf.301 1s3c5.301 1s3c9.301 1v 4s3d2.301 1s3d2.308 1v 2bs415.300 1s415.308 1v",
  "1s413.301 1v 3s406.308 1v 4s41a.301 1s418.300 1s423.306 1v as418.306 1v 1fs438.306 1v 16s435.300",
  "1s435.308 1v 1s433.301 1v 3s456.308 1v 4s43a.301 1s438.300 1s443.306 1v 17s474.30f 1s475.30f 1v",
  "49s416.306 1s436.306 1v ds410.306 1s430.306 1s410.308 1s430.308 1v 2s415.306 1s435.306 1v",
  "2s4d8.308 1s4d9.308 1s416.308 1s436.308 1s417.308 1s437.308 1v 2s418.304 1s438.304 1s418.308",
  "1s438.308 1s41e.308 1s43e.308 1v 2s4e8.308 1s4e9.308 1s42d.308 1s44d.308 1s423.304 1s443.304",
  "1s423.308 1s443.308 1s423.30b 1s443.30b 1s427.308 1s447.308 1v 2s42b.308 1s44b.308 1v",
  "128s627.653 1s627.654 1s648.654 1s627.655 1s64a.654 1v 99s6d5.654 1v 1s6c1.654 1v 10s6d2.654 1v",
  "255s928.93c 1v 7s930.93c 1v 2s933.93c 1v 23s915.93c 1s916.93c 1s917.93c 1s91c.93c 1s921.93c",
  "1s922.93c 1s92b.93c 1s92f.93c 1v 6bs9c7.9be 1s9c7.9d7 1v fs9a1.9bc 1s9a2.9bc 1v 1s9af.9bc 1v",
  "53sa32.a3c 1v 2sa38.a3c 1v 22sa16.a3c 1sa17.a3c 1sa1c.a3c 1v 2sa2b.a3c 1v e9sb47.b56 1v",
  "2sb47.b3e 1sb47.b57 1v fsb21.b3c 1sb22.b3c 1v 36sb92.bd7 1v 35sbc6.bbe 1sbc7.bbe 1sbc6.bd7 1v",
  "7bsc46.c56 1v 77scbf.cd5 1v 6scc6.cd5 1scc6.cd6 1v 1scc6.cc2 1scc6.cc2.cd5 1v 7esd46.d3e",
  "1sd47.d3e 1sd46.d57 1v 8dsdd9.dca 1v 1sdd9.dcf 1sdd9.dcf.dca 1sdd9.ddf 1v 164sf42.fb7 1v",
  "9sf4c.fb7 1v 4sf51.fb7 1v 4sf56.fb7 1v 4sf5b.fb7 1v csf40.fb5 1v 9sf71.f72 1v 1sf71.f74",
  "1sfb2.f80 1v 1sfb3.f80 1v 8sf71.f80 1v 11sf92.fb7 1v 9sf9c.fb7 1v 4sfa1.fb7 1v 4sfa6.fb7 1v",
  "4sfab.fb7 1v csf90.fb5 1v 6cs1025.102e 1v adfs1b05.1b35 1v 1s1b07.1b35 1v 1s1b09.1b35 1v",
  "1s1b0b.1b35 1v 1s1b0d.1b35 1v 3s1b11.1b35 1v 28s1b3a.1b35 1v 1s1b3c.1b35 1v 2s1b3e.1b35",
  "1s1b3f.1b35 1v 1s1b42.1b35 1v 2bcs41.325 1s61.325 1s42.307 1s62.307 1s42.323 1s62.323 1s42.331",
  "1s62.331 1s43.327.301 1s63.327.301 1s44.307 1s64.307 1s44.323 1s64.323 1s44.331 1s64.331",
  "1s44.327 1s64.327 1s44.32d 1s64.32d 1s45.304.300 1s65.304.300 1s45.304.301 1s65.304.301 1s45.32d",
  "1s65.32d 1s45.330 1s65.330 1s45.327.306 1s65.327.306 1s46.307 1s66.307 1s47.304 1s67.304",
  "1s48.307 1s68.307 1s48.323 1s68.323 1s48.308 1s68.308 1s48.327 1s68.327 1s48.32e 1s68.32e",
  "1s49.330 1s69.330 1s49.308.301 1s69.308.301 1s4b.301 1s6b.301 1s4b.323 1s6b.323 1s4b.331",
  "1s6b.331 1s4c.323 1s6c.323 1s4c.323.304 1s6c.323.304 1s4c.331 1s6c.331 1s4c.32d 1s6c.32d",
  "1s4d.301 1s6d.301 1s4d.307 1s6d.307 1s4d.323 1s6d.323 1s4e.307 1s6e.307 1s4e.323 1s6e.323",
  "1s4e.331 1s6e.331 1s4e.32d 1s6e.32d 1s4f.303.301 1s6f.303.301 1s4f.303.308 1s6f.303.308",
  "1s4f.304.300 1s6f.304.300 1s4f.304.301 1s6f.304.301 1s50.301 1s70.301 1s50.307 1s70.307 1s52.307",
  "1s72.307 1s52.323 1s72.323 1s52.323.304 1s72.323.304 1s52.331 1s72.331 1s53.307 1s73.307",
  "1s53.323 1s73.323 1s53.301.307 1s73.301.307 1s53.30c.307 1s73.30c.307 1s53.323.307 1s73.323.307",
  "1s54.307 1s74.307 1s54.323 1s74.323 1s54.331 1s74.331 1s54.32d 1s74.32d 1s55.324 1s75.324",
  "1s55.330 1s75.330 1s55.32d 1s75.32d 1s55.303.301 1s75.303.301 1s55.304.308 1s75.304.308 1s56.303",
  "1s76.303 1s56.323 1s76.323 1s57.300 1s77.300 1s57.301 1s77.301 1s57.308 1s77.308 1s57.307",
  "1s77.307 1s57.323 1s77.323 1s58.307 1s78.307 1s58.308 1s78.308 1s59.307 1s79.307 1s5a.302",
  "1s7a.302 1s5a.323 1s7a.323 1s5a.331 1s7a.331 1s68.331 1s74.308 1s77.30a 1s79.30a 1v 1s17f.307 1v",
  "4s41.323 1s61.323 1s41.309 1s61.309 1s41.302.301 1s61.302.301 1s41.302.300 1s61.302.300",
  "1s41.302.309 1s61.302.309 1s41.302.303 1s61.302.303 1s41.323.302 1s61.323.302 1s41.306.301",
  "1s61.306.301 1s41.306.300 1s61.306.300 1s41.306.309 1s61.306.309 1s41.306.303 1s61.306.303",
  "1s41.323.306 1s61.323.306 1s45.323 1s65.323 1s45.309 1s65.309 1s45.303 1s65.303 1s45.302.301",
  "1s65.302.301 1s45.302.300 1s65.302.300 1s45.302.309 1s65.302.309 1s45.302.303 1s65.302.303",
  "1s45.323.302 1s65.323.302 1s49.309 1s69.309 1s49.323 1s69.323 1s4f.323 1s6f.323 1s4f.309",
  "1s6f.309 1s4f.302.301 1s6f.302.301 1s4f.302.300 1s6f.302.300 1s4f.302.309 1s6f.302.309",
  "1s4f.302.303 1s6f.302.303 1s4f.323.302 1s6f.323.302 1s4f.31b.301 1s6f.31b.301 1s4f.31b.300",
  "1s6f.31b.300 1s4f.31b.309 1s6f.31b.309 1s4f.31b.303 1s6f.31b.303 1s4f.31b.323 1s6f.31b.323",
  "1s55.323 1s75.323 1s55.309 1s75.309 1s55.31b.301 1s75.31b.301 1s55.31b.300 1s75.31b.300",
  "1s55.31b.309 1s75.31b.309 1s55.31b.303 1s75.31b.303 1s55.31b.323 1s75.31b.323 1s59.300 1s79.300",
  "1s59.323 1s79.323 1s59.309 1s79.309 1s59.303 1s79.303 1v 6s3b1.313 1s3b1.314 1s3b1.313.300",
  "1s3b1.314.300 1s3b1.313.301 1s3b1.314.301 1s3b1.313.342 1s3b1.314.342 1s391.313 1s391.314",
  "1s391.313.300 1s391.314.300 1s391.313.301 1s391.314.301 1s391.313.342 1s391.314.342 1s3b5.313",
  "1s3b5.314 1s3b5.313.300 1s3b5.314.300 1s3b5.313.301 1s3b5.314.301 1v 2s395.313 1s395.314",
  "1s395.313.300 1s395.314.300 1s395.313.301 1s395.314.301 1v 2s3b7.313 1s3b7.314 1s3b7.313.300",
  "1s3b7.314.300 1s3b7.313.301 1s3b7.314.301 1s3b7.313.342 1s3b7.314.342 1s397.313 1s397.314",
  "1s397.313.300 1s397.314.300 1s397.313.301 1s397.314.301 1s397.313.342 1s397.314.342 1s3b9.313",
  "1s3b9.314 1s3b9.313.300 1s3b9.314.300 1s3b9.313.301 1s3b9.314.301 1s3b9.313.342 1s3b9.314.342",
  "1s399.313 1s399.314 1s399.313.300 1s399.314.300 1s399.313.301 1s399.314.301 1s399.313.342",
  "1s399.314.342 1s3bf.313 1s3bf.314 1s3bf.313.300 1s3bf.314.300 1s3bf.313.301 1s3bf.314.301 1v",
  "2s39f.313 1s39f.314 1s39f.313.300 1s39f.314.300 1s39f.313.301 1s39f.314.301 1v 2s3c5.313",
  "1s3c5.314 1s3c5.313.300 1s3c5.314.300 1s3c5.313.301 1s3c5.314.301 1s3c5.313.342 1s3c5.314.342 1v",
  "1s3a5.314 1v 1s3a5.314.300 1v 1s3a5.314.301 1v 1s3a5.314.342 1s3c9.313 1s3c9.314 1s3c9.313.300",
  "1s3c9.314.300 1s3c9.313.301 1s3c9.314.301 1s3c9.313.342 1s3c9.314.342 1s3a9.313 1s3a9.314",
  "1s3a9.313.300 1s3a9.314.300 1s3a9.313.301 1s3a9.314.301 1s3a9.313.342 1s3a9.314.342 1s3b1.300",
  "1s3b1.301 1s3b5.300 1s3b5.301 1s3b7.300 1s3b7.301 1s3b9.300 1s3b9.301 1s3bf.300 1s3bf.301",
  "1s3c5.300 1s3c5.301 1s3c9.300 1s3c9.301 1v 2s3b1.313.345 1s3b1.314.345 1s3b1.313.300.345",
  "1s3b1.314.300.345 1s3b1.313.301.345 1s3b1.314.301.345 1s3b1.313.342.345 1s3b1.314.342.345",
  "1s391.313.345 1s391.314.345 1s391.313.300.345 1s391.314.300.345 1s391.313.301.345",
  "1s391.314.301.345 1s391.313.342.345 1s391.314.342.345 1s3b7.313.345 1s3b7.314.345",
  "1s3b7.313.300.345 1s3b7.314.300.345 1s3b7.313.301.345 1s3b7.314.301.345 1s3b7.313.342.345",
  "1s3b7.314.342.345 1s397.313.345 1s397.314.345 1s397.313.300.345 1s397.314.300.345",
  "1s397.313.301.345 1s397.314.301.345 1s397.313.342.345 1s397.314.342.345 1s3c9.313.345",
  "1s3c9.314.345 1s3c9.313.300.345 1s3c9.314.300.345 1s3c9.313.301.345 1s3c9.314.301.345",
  "1s3c9.313.342.345 1s3c9.314.342.345 1s3a9.313.345 1s3a9.314.345 1s3a9.313.300.345",
  "1s3a9.314.300.345 1s3a9.313.301.345 1s3a9.314.301.345 1s3a9.313.342.345 1s3a9.314.342.345",
  "1s3b1.306 1s3b1.304 1s3b1.300.345 1s3b1.345 1s3b1.301.345 1v 1s3b1.342 1s3b1.342.345 1s391.306",
  "1s391.304 1s391.300 1s391.301 1s391.345 1v 1s3b9 1v 2sa8.342 1s3b7.300.345 1s3b7.345",
  "1s3b7.301.345 1v 1s3b7.342 1s3b7.342.345 1s395.300 1s395.301 1s397.300 1s397.301 1s397.345",
  "1s1fbf.300 1s1fbf.301 1s1fbf.342 1s3b9.306 1s3b9.304 1s3b9.308.300 1s3b9.308.301 1v 2s3b9.342",
  "1s3b9.308.342 1s399.306 1s399.304 1s399.300 1s399.301 1v 1s1ffe.300 1s1ffe.301 1s1ffe.342",
  "1s3c5.306 1s3c5.304 1s3c5.308.300 1s3c5.308.301 1s3c1.313 1s3c1.314 1s3c5.342 1s3c5.308.342",
  "1s3a5.306 1s3a5.304 1s3a5.300 1s3a5.301 1s3a1.314 1sa8.300 1sa8.301 1s60 1v 2s3c9.300.345",
  "1s3c9.345 1s3c9.301.345 1v 1s3c9.342 1s3c9.342.345 1s39f.300 1s39f.301 1s3a9.300 1s3a9.301",
  "1s3a9.345 1sb4 1v 2s2002 1s2003 1v 124s3a9 1v 3s4b 1s41.30a 1v 6es2190.338 1s2192.338 1v",
  "12s2194.338 1v 1es21d0.338 1s21d4.338 1s21d2.338 1v 34s2203.338 1v 4s2208.338 1v 2s220b.338 1v",
  "17s2223.338 1v 1s2225.338 1v 1as223c.338 1v 2s2243.338 1v 2s2245.338 1v 1s2248.338 1v 16s3d.338",
  "1v 1s2261.338 1v as224d.338 1s3c.338 1s3e.338 1s2264.338 1s2265.338 1v 2s2272.338 1s2273.338 1v",
  "2s2276.338 1s2277.338 1v 6s227a.338 1s227b.338 1v 2s2282.338 1s2283.338 1v 2s2286.338 1s2287.338",
  "1v 22s22a2.338 1s22a8.338 1s22a9.338 1s22ab.338 1v 30s227c.338 1s227d.338 1s2291.338 1s2292.338",
  "1v 6s22b2.338 1s22b3.338 1s22b4.338 1s22b5.338 1v 3bs3008 1s3009 1v 7b1s2add.338 1v",
  "56fs304b.3099 1v 1s304d.3099 1v 1s304f.3099 1v 1s3051.3099 1v 1s3053.3099 1v 1s3055.3099 1v",
  "1s3057.3099 1v 1s3059.3099 1v 1s305b.3099 1v 1s305d.3099 1v 1s305f.3099 1v 1s3061.3099 1v",
  "2s3064.3099 1v 1s3066.3099 1v 1s3068.3099 1v 6s306f.3099 1s306f.309a 1v 1s3072.3099 1s3072.309a",
  "1v 1s3075.3099 1s3075.309a 1v 1s3078.3099 1s3078.309a 1v 1s307b.3099 1s307b.309a 1v 16s3046.3099",
  "1v 9s309d.3099 1v ds30ab.3099 1v 1s30ad.3099 1v 1s30af.3099 1v 1s30b1.3099 1v 1s30b3.3099 1v",
  "1s30b5.3099 1v 1s30b7.3099 1v 1s30b9.3099 1v 1s30bb.3099 1v 1s30bd.3099 1v 1s30bf.3099 1v",
  "1s30c1.3099 1v 2s30c4.3099 1v 1s30c6.3099 1v 1s30c8.3099 1v 6s30cf.3099 1s30cf.309a 1v",
  "1s30d2.3099 1s30d2.309a 1v 1s30d5.3099 1s30d5.309a 1v 1s30d8.3099 1s30d8.309a 1v 1s30db.3099",
  "1s30db.309a 1v 16s30a6.3099 1v 2s30ef.3099 1s30f0.3099 1s30f1.3099 1s30f2.3099 1v 3s30fd.3099 1v",
  "c801s8c48 1s66f4 1s8eca 1s8cc8 1s6ed1 1s4e32 1s53e5 1s9f9c 1s9f9c 1s5951 1s91d1 1s5587 1s5948",
  "1s61f6 1s7669 1s7f85 1s863f 1s87ba 1s88f8 1s908f 1s6a02 1s6d1b 1s70d9 1s73de 1s843d 1s916a",
  "1s99f1 1s4e82 1s5375 1s6b04 1s721b 1s862d 1s9e1e 1s5d50 1s6feb 1s85cd 1s8964 1s62c9 1s81d8",
  "1s881f 1s5eca 1s6717 1s6d6a 1s72fc 1s90ce 1s4f86 1s51b7 1s52de 1s64c4 1s6ad3 1s7210 1s76e7",
  "1s8001 1s8606 1s865c 1s8def 1s9732 1s9b6f 1s9dfa 1s788c 1s797f 1s7da0 1s83c9 1s9304 1s9e7f",
  "1s8ad6 1s58df 1s5f04 1s7c60 1s807e 1s7262 1s78ca 1s8cc2 1s96f7 1s58d8 1s5c62 1s6a13 1s6dda",
  "1s6f0f 1s7d2f 1s7e37 1s964b 1s52d2 1s808b 1s51dc 1s51cc 1s7a1c 1s7dbe 1s83f1 1s9675 1s8b80",
  "1s62cf 1s6a02 1s8afe 1s4e39 1s5be7 1s6012 1s7387 1s7570 1s5317 1s78fb 1s4fbf 1s5fa9 1s4e0d",
  "1s6ccc 1s6578 1s7d22 1s53c3 1s585e 1s7701 1s8449 1s8aaa 1s6bba 1s8fb0 1s6c88 1s62fe 1s82e5",
  "1s63a0 1s7565 1s4eae 1s5169 1s51c9 1s6881 1s7ce7 1s826f 1s8ad2 1s91cf 1s52f5 1s5442 1s5973",
  "1s5eec 1s65c5 1s6ffe 1s792a 1s95ad 1s9a6a 1s9e97 1s9ece 1s529b 1s66c6 1s6b77 1s8f62 1s5e74",
  "1s6190 1s6200 1s649a 1s6f23 1s7149 1s7489 1s79ca 1s7df4 1s806f 1s8f26 1s84ee 1s9023 1s934a",
  "1s5217 1s52a3 1s54bd 1s70c8 1s88c2 1s8aaa 1s5ec9 1s5ff5 1s637b 1s6bae 1s7c3e 1s7375 1s4ee4",
  "1s56f9 1s5be7 1s5dba 1s601c 1s73b2 1s7469 1s7f9a 1s8046 1s9234 1s96f6 1s9748 1s9818 1s4f8b",
  "1s79ae 1s91b4 1s96b8 1s60e1 1s4e86 1s50da 1s5bee 1s5c3f 1s6599 1s6a02 1s71ce 1s7642 1s84fc",
  "1s907c 1s9f8d 1s6688 1s962e 1s5289 1s677b 1s67f3 1s6d41 1s6e9c 1s7409 1s7559 1s786b 1s7d10",
  "1s985e 1s516d 1s622e 1s9678 1s502b 1s5d19 1s6dea 1s8f2a 1s5f8b 1s6144 1s6817 1s7387 1s9686",
  "1s5229 1s540f 1s5c65 1s6613 1s674e 1s68a8 1s6ce5 1s7406 1s75e2 1s7f79 1s88cf 1s88e1 1s91cc",
  "1s96e2 1s533f 1s6eba 1s541d 1s71d0 1s7498 1s85fa 1s96a3 1s9c57 1s9e9f 1s6797 1s6dcb 1s81e8",
  "1s7acb 1s7b20 1s7c92 1s72c0 1s7099 1s8b58 1s4ec0 1s8336 1s523a 1s5207 1s5ea6 1s62d3 1s7cd6",
  "1s5b85 1s6d1e 1s66b4 1s8f3b 1s884c 1s964d 1s898b 1s5ed3 1s5140 1s55c0 1v 2s585a 1v 1s6674 1v",
  "2s51de 1s732a 1s76ca 1s793c 1s795e 1s7965 1s798f 1s9756 1s7cbe 1s7fbd 1v 1s8612 1v 1s8af8 1v",
  "2s9038 1s90fd 1v 3s98ef 1s98fc 1s9928 1s9db4 1s90de 1s96b7 1s4fae 1s50e7 1s514d 1s52c9 1s52e4",
  "1s5351 1s559d 1s5606 1s5668 1s5840 1s58a8 1s5c64 1s5c6e 1s6094 1s6168 1s618e 1s61f2 1s654f",
  "1s65e2 1s6691 1s6885 1s6d77 1s6e1a 1s6f22 1s716e 1s722b 1s7422 1s7891 1s793e 1s7949 1s7948",
  "1s7950 1s7956 1s795d 1s798d 1s798e 1s7a40 1s7a81 1s7bc0 1s7df4 1s7e09 1s7e41 1s7f72 1s8005",
  "1s81ed 1s8279 1s8279 1s8457 1s8910 1s8996 1s8b01 1s8b39 1s8cd3 1s8d08 1s8fb6 1s9038 1s96e3",
  "1s97ff 1s983b 1s6075 1s242ee 1s8218 1v 2s4e26 1s51b5 1s5168 1s4f80 1s5145 1s5180 1s52c7 1s52fa",
  "1s559d 1s5555 1s5599 1s55e2 1s585a 1s58b3 1s5944 1s5954 1s5a62 1s5b28 1s5ed2 1s5ed9 1s5f69",
  "1s5fad 1s60d8 1s614e 1s6108 1s618e 1s6160 1s61f2 1s6234 1s63c4 1s641c 1s6452 1s6556 1s6674",
  "1s6717 1s671b 1s6756 1s6b79 1s6bba 1s6d41 1s6edb 1s6ecb 1s6f22 1s701e 1s716e 1s77a7 1s7235",
  "1s72af 1s732a 1s7471 1s7506 1s753b 1s761d 1s761f 1s76ca 1s76db 1s76f4 1s774a 1s7740 1s78cc",
  "1s7ab1 1s7bc0 1s7c7b 1s7d5b 1s7df4 1s7f3e 1s8005 1s8352 1s83ef 1s8779 1s8941 1s8986 1s8996",
  "1s8abf 1s8af8 1s8acb 1s8b01 1s8afe 1s8aed 1s8b39 1s8b8a 1s8d08 1s8f38 1s9072 1s9199 1s9276",
  "1s967c 1s96e3 1s9756 1s97db 1s97ff 1s980b 1s983b 1s9b12 1s9f9c 1s2284a 1s22844 1s233d5 1s3b9d",
  "1s4018 1s4039 1s25249 1s25cd0 1s27ed3 1s9f43 1s9f8e 1v 43s5d9.5b4 1v 1s5f2.5b7 1v as5e9.5c1",
  "1s5e9.5c2 1s5e9.5bc.5c1 1s5e9.5bc.5c2 1s5d0.5b7 1s5d0.5b8 1s5d0.5bc 1s5d1.5bc 1s5d2.5bc",
  "1s5d3.5bc 1s5d4.5bc 1s5d5.5bc 1s5d6.5bc 1v 1s5d8.5bc 1s5d9.5bc 1s5da.5bc 1s5db.5bc 1s5dc.5bc 1v",
  "1s5de.5bc 1v 1s5e0.5bc 1s5e1.5bc 1v 1s5e3.5bc 1s5e4.5bc 1v 1s5e6.5bc 1s5e7.5bc 1s5e8.5bc",
  "1s5e9.5bc 1s5ea.5bc 1s5d5.5b9 1s5d1.5bf 1s5db.5bf 1s5e4.5bf 1v a7as105d2.307 1v 1as105da.307 1v",
  "ab5s11099.110ba 1v 1s1109b.110ba 1v es110a5.110ba 1v 82s11131.11127 1s11132.11127 1v",
  "21bs11347.1133e 1s11347.11357 1v 36s11382.113c9 1v 1s11384.113bb 1v 8s1138b.113c2 1v",
  "2s11390.113c9 1v 33s113c2.113c2 1v 1s113c2.113b8 1s113c2.113c9 1v f2s114b9.114ba 1s114b9.114b0",
  "1v 1s114b9.114bd 1v fbs115b8.115af 1s115b9.115af 1v 37cs11935.11930 1v 47e8s1611e.1611e",
  "1s1611e.16129 1s1611e.1611f 1s16129.1611f 1s1611e.16120 1s1611e.1611e.1611f 1s1611e.16129.1611f",
  "1s1611e.1611e.16120 1v c3fs16d67.16d67 1s16d63.16d67 1s16d63.16d67.16d67 1v 63f3s1d157.1d165",
  "1s1d158.1d165 1s1d158.1d165.1d16e 1s1d158.1d165.1d16f 1s1d158.1d165.1d170 1s1d158.1d165.1d171",
  "1s1d158.1d165.1d172 1v 56s1d1b9.1d165 1s1d1ba.1d165 1s1d1b9.1d165.1d16e 1s1d1ba.1d165.1d16e",
  "1s1d1b9.1d165.1d16f 1s1d1ba.1d165.1d16f 1v 1263fs4e3d 1s4e38 1s4e41 1s20122 1s4f60 1s4fae 1s4fbb",
  "1s5002 1s507a 1s5099 1s50e7 1s50cf 1s349e 1s2063a 1s514d 1s5154 1s5164 1s5177 1s2051c 1s34b9",
  "1s5167 1s518d 1s2054b 1s5197 1s51a4 1s4ecc 1s51ac 1s51b5 1s291df 1s51f5 1s5203 1s34df 1s523b",
  "1s5246 1s5272 1s5277 1s3515 1s52c7 1s52c9 1s52e4 1s52fa 1s5305 1s5306 1s5317 1s5349 1s5351",
  "1s535a 1s5373 1s537d 1s537f 1s537f 1s537f 1s20a2c 1s7070 1s53ca 1s53df 1s20b63 1s53eb 1s53f1",
  "1s5406 1s549e 1s5438 1s5448 1s5468 1s54a2 1s54f6 1s5510 1s5553 1s5563 1s5584 1s5584 1s5599",
  "1s55ab 1s55b3 1s55c2 1s5716 1s5606 1s5717 1s5651 1s5674 1s5207 1s58ee 1s57ce 1s57f4 1s580d",
  "1s578b 1s5832 1s5831 1s58ac 1s214e4 1s58f2 1s58f7 1s5906 1s591a 1s5922 1s5962 1s216a8 1s216ea",
  "1s59ec 1s5a1b 1s5a27 1s59d8 1s5a66 1s36ee 1s36fc 1s5b08 1s5b3e 1s5b3e 1s219c8 1s5bc3 1s5bd8",
  "1s5be7 1s5bf3 1s21b18 1s5bff 1s5c06 1s5f53 1s5c22 1s3781 1s5c60 1s5c6e 1s5cc0 1s5c8d 1s21de4",
  "1s5d43 1s21de6 1s5d6e 1s5d6b 1s5d7c 1s5de1 1s5de2 1s382f 1s5dfd 1s5e28 1s5e3d 1s5e69 1s3862",
  "1s22183 1s387c 1s5eb0 1s5eb3 1s5eb6 1s5eca 1s2a392 1s5efe 1s22331 1s22331 1s8201 1s5f22 1s5f22",
  "1s38c7 1s232b8 1s261da 1s5f62 1s5f6b 1s38e3 1s5f9a 1s5fcd 1s5fd7 1s5ff9 1s6081 1s393a 1s391c",
  "1s6094 1s226d4 1s60c7 1s6148 1s614c 1s614e 1s614c 1s617a 1s618e 1s61b2 1s61a4 1s61af 1s61de",
  "1s61f2 1s61f6 1s6210 1s621b 1s625d 1s62b1 1s62d4 1s6350 1s22b0c 1s633d 1s62fc 1s6368 1s6383",
  "1s63e4 1s22bf1 1s6422 1s63c5 1s63a9 1s3a2e 1s6469 1s647e 1s649d 1s6477 1s3a6c 1s654f 1s656c",
  "1s2300a 1s65e3 1s66f8 1s6649 1s3b19 1s6691 1s3b08 1s3ae4 1s5192 1s5195 1s6700 1s669c 1s80ad",
  "1s43d9 1s6717 1s671b 1s6721 1s675e 1s6753 1s233c3 1s3b49 1s67fa 1s6785 1s6852 1s6885 1s2346d",
  "1s688e 1s681f 1s6914 1s3b9d 1s6942 1s69a3 1s69ea 1s6aa8 1s236a3 1s6adb 1s3c18 1s6b21 1s238a7",
  "1s6b54 1s3c4e 1s6b72 1s6b9f 1s6bba 1s6bbb 1s23a8d 1s21d0b 1s23afa 1s6c4e 1s23cbc 1s6cbf 1s6ccd",
  "1s6c67 1s6d16 1s6d3e 1s6d77 1s6d41 1s6d69 1s6d78 1s6d85 1s23d1e 1s6d34 1s6e2f 1s6e6e 1s3d33",
  "1s6ecb 1s6ec7 1s23ed1 1s6df9 1s6f6e 1s23f5e 1s23f8e 1s6fc6 1s7039 1s701e 1s701b 1s3d96 1s704a",
  "1s707d 1s7077 1s70ad 1s20525 1s7145 1s24263 1s719c 1s243ab 1s7228 1s7235 1s7250 1s24608 1s7280",
  "1s7295 1s24735 1s24814 1s737a 1s738b 1s3eac 1s73a5 1s3eb8 1s3eb8 1s7447 1s745c 1s7471 1s7485",
  "1s74ca 1s3f1b 1s7524 1s24c36 1s753e 1s24c92 1s7570 1s2219f 1s7610 1s24fa1 1s24fb8 1s25044 1s3ffc",
  "1s4008 1s76f4 1s250f3 1s250f2 1s25119 1s25133 1s771e 1s771f 1s771f 1s774a 1s4039 1s778b 1s4046",
  "1s4096 1s2541d 1s784e 1s788c 1s78cc 1s40e3 1s25626 1s7956 1s2569a 1s256c5 1s798f 1s79eb 1s412f",
  "1s7a40 1s7a4a 1s7a4f 1s2597c 1s25aa7 1s25aa7 1s7aee 1s4202 1s25bab 1s7bc6 1s7bc9 1s4227 1s25c80",
  "1s7cd2 1s42a0 1s7ce8 1s7ce3 1s7d00 1s25f86 1s7d63 1s4301 1s7dc7 1s7e02 1s7e45 1s4334 1s26228",
  "1s26247 1s4359 1s262d9 1s7f7a 1s2633e 1s7f95 1s7ffa 1s8005 1s264da 1s26523 1s8060 1s265a8 1s8070",
  "1s2335f 1s43d5 1s80b2 1s8103 1s440b 1s813e 1s5ab5 1s267a7 1s267b5 1s23393 1s2339c 1s8201 1s8204",
  "1s8f9e 1s446b 1s8291 1s828b 1s829d 1s52b3 1s82b1 1s82b3 1s82bd 1s82e6 1s26b3c 1s82e5 1s831d",
  "1s8363 1s83ad 1s8323 1s83bd 1s83e7 1s8457 1s8353 1s83ca 1s83cc 1s83dc 1s26c36 1s26d6b 1s26cd5",
  "1s452b 1s84f1 1s84f3 1s8516 1s273ca 1s8564 1s26f2c 1s455d 1s4561 1s26fb1 1s270d2 1s456b 1s8650",
  "1s865c 1s8667 1s8669 1s86a9 1s8688 1s870e 1s86e2 1s8779 1s8728 1s876b 1s8786 1s45d7 1s87e1",
  "1s8801 1s45f9 1s8860 1s8863 1s27667 1s88d7 1s88de 1s4635 1s88fa 1s34bb 1s278ae 1s27966 1s46be",
  "1s46c7 1s8aa0 1s8aed 1s8b8a 1s8c55 1s27ca8 1s8cab 1s8cc1 1s8d1b 1s8d77 1s27f2f 1s20804 1s8dcb",
  "1s8dbc 1s8df0 1s208de 1s8ed4 1s8f38 1s285d2 1s285ed 1s9094 1s90f1 1s9111 1s2872e 1s911b 1s9238",
  "1s92d7 1s92d8 1s927c 1s93f9 1s9415 1s28bfa 1s958b 1s4995 1s95b7 1s28d77 1s49e6 1s96c3 1s5db2",
  "1s9723 1s29145 1s2921a 1s4a6e 1s4a76 1s97e0 1s2940a 1s4ab2 1s29496 1s980b 1s980b 1s9829 1s295b6",
  "1s98e2 1s4b33 1s9929 1s99a7 1s99c2 1s99fe 1s4bce 1s29b30 1s9b12 1s9c40 1s9cfd 1s4cce 1s4ced",
  "1s9d67 1s2a0ce 1s4cf8 1s2a105 1s2a20e 1s2a291 1s9ebb 1s4d56 1s9ef9 1s9efe 1s9f05 1s9f0f 1s9f16",
  "1s9f3b 1s2a600 1v"
]

/-- The keys are pairs `first * 0x200000 + second`. -/
def compositionRows : List String := [
  "7800338s226e 200000s2260 200000s226f 5fffc8sc0 1sc1 1sc2 1sc3 1s100 2s102 1s226 1sc4 1s1ea2 1sc5",
  "2s1cd 3s200 2s202 12s1ea0 2s1e00 3s104 1fffdfs1e02 1cs1e04 es1e06 1fffd0s106 1s108 5s10a 5s10c",
  "1bsc7 1fffe0s1e0a 5s10e 17s1e0c 4s1e10 6s1e12 4s1e0e 1fffcfsc8 1sc9 1sca 1s1ebc 1s112 2s114",
  "1s116 1scb 1s1eba 3s11a 3s204 2s206 12s1eb8 4s228 1s118 5s1e18 3s1e1a 1fffd7s1e1e 1ffffas1f4",
  "1s11c 2s1e20 2s11e 1s120 5s1e6 1bs122 1fffdbs124 5s1e22 1s1e26 4s21e 17s1e24 4s1e28 7s1e2a",
  "1fffd2scc 1scd 1sce 1s128 1s12a 2s12c 1s130 1scf 1s1ec8 3s1cf 3s208 2s20a 12s1eca 5s12e 8s1e2c",
  "1fffd2s134 1fffffs1e30 bs1e8 17s1e32 4s136 as1e34 1fffd0s139 bs13d 17s1e36 4s13b 6s1e3c 4s1e3a",
  "1fffd0s1e3e 6s1e40 1cs1e42 1fffdds1f8 1s143 2sd1 4s1e44 5s147 17s1e46 4s145 6s1e4a 4s1e48",
  "1fffcfsd2 1sd3 1sd4 1sd5 1s14c 2s14e 1s22e 1sd6 1s1ece 2s150 1s1d1 3s20c 2s20e as1a0 8s1ecc",
  "5s1ea 1fffd9s1e54 6s1e56 3ffffas154 6s1e58 5s158 3s210 2s212 12s1e5a 4s156 as1e5e 1fffd0s15a",
  "1s15c 5s1e60 5s160 17s1e62 3s218 1s15e 1fffe0s1e6a 5s164 17s1e6c 3s21a 1s162 6s1e70 4s1e6e",
  "1fffcfsd9 1sda 1sdb 1s168 1s16a 2s16c 2sdc 1s1ee6 1s16e 1s170 1s1d3 3s214 2s216 as1af 8s1ee4",
  "1s1e72 4s172 5s1e76 3s1e74 1fffd3s1e7c 20s1e7e 1fffdds1e80 1s1e82 1s174 5s1e86 1s1e84 1bs1e88",
  "1fffe4s1e8a 1s1e8c 1ffff8s1ef2 1sdd 1s176 1s1ef8 1s232 3s1e8e 1s178 1s1ef6 1as1ef4 1fffdes179",
  "1s1e90 5s17b 5s17d 17s1e92 es1e94 dfffcfse0 1se1 1se2 1se3 1s101 2s103 1s227 1se4 1s1ea3 1se5",
  "2s1ce 3s201 2s203 12s1ea1 2s1e01 3s105 1fffdfs1e03 1cs1e05 es1e07 1fffd0s107 1s109 5s10b 5s10d",
  "1bse7 1fffe0s1e0b 5s10f 17s1e0d 4s1e11 6s1e13 4s1e0f 1fffcfse8 1se9 1sea 1s1ebd 1s113 2s115",
  "1s117 1seb 1s1ebb 3s11b 3s205 2s207 12s1eb9 4s229 1s119 5s1e19 3s1e1b 1fffd7s1e1f 1ffffas1f5",
  "1s11d 2s1e21 2s11f 1s121 5s1e7 1bs123 1fffdbs125 5s1e23 1s1e27 4s21f 17s1e25 4s1e29 7s1e2b",
  "3s1e96 1fffcfsec 1sed 1see 1s129 1s12b 2s12d 2sef 1s1ec9 3s1d0 3s209 2s20b 12s1ecb 5s12f 8s1e2d",
  "1fffd2s135 as1f0 1ffff5s1e31 bs1e9 17s1e33 4s137 as1e35 1fffd0s13a bs13e 17s1e37 4s13c 6s1e3d",
  "4s1e3b 1fffd0s1e3f 6s1e41 1cs1e43 1fffdds1f9 1s144 2sf1 4s1e45 5s148 17s1e47 4s146 6s1e4b 4s1e49",
  "1fffcfsf2 1sf3 1sf4 1sf5 1s14d 2s14f 1s22f 1sf6 1s1ecf 2s151 1s1d2 3s20d 2s20f as1a1 8s1ecd",
  "5s1eb 1fffd9s1e55 6s1e57 3ffffas155 6s1e59 5s159 3s211 2s213 12s1e5b 4s157 as1e5f 1fffd0s15b",
  "1s15d 5s1e61 5s161 17s1e63 3s219 1s15f 1fffe0s1e6b 1s1e97 4s165 17s1e6d 3s21b 1s163 6s1e71",
  "4s1e6f 1fffcfsf9 1sfa 1sfb 1s169 1s16b 2s16d 2sfc 1s1ee7 1s16f 1s171 1s1d4 3s215 2s217 as1b0",
  "8s1ee5 1s1e73 4s173 5s1e77 3s1e75 1fffd3s1e7d 20s1e7f 1fffdds1e81 1s1e83 1s175 5s1e87 1s1e85",
  "2s1e98 19s1e89 1fffe4s1e8b 1s1e8d 1ffff8s1ef3 1sfd 1s177 1s1ef9 1s233 3s1e8f 1sff 1s1ef7 1s1e99",
  "19s1ef5 1fffdes17a 1s1e91 5s17c 5s17e 17s1e93 es1e95 5bfffcfs1fed 1s385 41s1fc1 33fffbes1ea6",
  "1s1ea4 2s1eaa 6s1ea8 3ffffbs1de 1ffffds1fa 200000s1fc 3s1e2 1ffffds1e08 5fffffs1ec0 1s1ebe",
  "2s1ec4 6s1ec2 9ffff8s1e2e 9fffffs1ed2 1s1ed0 2s1ed6 6s1ed4 1ffff8s1e4c 3s22c 4s1e4e 1ffffcs22a",
  "3ffffds1fe 7fffffs1db 1s1d7 3s1d5 8s1d9 bffff4s1ea7 1s1ea5 2s1eab 6s1ea9 3ffffbs1df 1ffffds1fb",
  "200000s1fd 3s1e3 1ffffds1e09 5fffffs1ec1 1s1ebf 2s1ec5 6s1ec3 9ffff8s1e2f 9fffffs1ed3 1s1ed1",
  "2s1ed7 6s1ed5 1ffff8s1e4d 3s22d 4s1e4f 1ffffcs22b 3ffffds1ff 7fffffs1dc 1s1d8 3s1d6 8s1da",
  "bffff4s1eb0 1s1eae 2s1eb4 6s1eb2 1ffff7s1eb1 1s1eaf 2s1eb5 6s1eb3 1dffff7s1e14 1s1e16",
  "1fffffs1e15 1s1e17 71fffffs1e50 1s1e52 1fffffs1e51 1s1e53 1a00006s1e64 200000s1e65 a00000s1e66",
  "200000s1e67 dffffas1e78 200000s1e79 200007s1e7a 200000s1e7b 27fffffs1e9b 41ffff9s1edc 1s1eda",
  "2s1ee0 6s1ede 1as1ee2 1fffdds1edd 1s1edb 2s1ee1 6s1edf 1as1ee3 1bfffdds1eea 1s1ee8 2s1eee 6s1eec",
  "1as1ef0 1fffdds1eeb 1s1ee9 2s1eef 6s1eed 1as1ef1 dfffe9s1ee 65ffff8s1ec 200000s1ed 7600000s1e0",
  "200000s1e1 200002s1e1c 200000s1e1d 9ffffes230 200000s231 c600008s1ef 1fdffff4s1fba 1s386 3s1fb9",
  "2s1fb8 ds1f08 1s1f09 31s1fbc 7fffbbs1fc8 1s388 12s1f18 1s1f19 3fffecs1fca 1s389 12s1f28 1s1f29",
  "31s1fcc 3fffbbs1fda 1s38a 3s1fd9 2s1fd8 2s3aa bs1f38 1s1f39 bfffecs1ff8 1s38c 12s1f48 1s1f49",
  "400000s1fec 7fffecs1fea 1s38e 3s1fe9 2s1fe8 2s3ab cs1f59 7fffecs1ffa 1s38f 12s1f68 1s1f69",
  "31s1ffc 600000s1fb4 400000s1fc4 5fffbbs1f70 1s3ac 3s1fb1 2s1fb0 ds1f00 1s1f01 2es1fb6 3s1fb3",
  "7fffbbs1f72 1s3ad 12s1f10 1s1f11 3fffecs1f74 1s3ae 12s1f20 1s1f21 2es1fc6 3s1fc3 3fffbbs1f76",
  "1s3af 3s1fd1 2s1fd0 2s3ca bs1f30 1s1f31 2es1fd6 bfffbes1f78 1s3cc 12s1f40 1s1f41 3fffffs1fe4",
  "1s1fe5 7fffecs1f7a 1s3cd 3s1fe1 2s1fe0 2s3cb bs1f50 1s1f51 2es1fe6 7fffbes1f7c 1s3ce 12s1f60",
  "1s1f61 2es1ff6 3s1ff3 1fffbbs1fd2 1s390 41s1fd7 1fffbes1fe2 1s3b0 41s1fe7 600003s1ff4 7fffbcs3d3",
  "7s3d4 6800000s407 13ffffes4d0 2s4d2 5ffff9s403 3fffffs400 6s4d6 2s401 1ffffes4c1 2s4dc",
  "200000s4de 1ffff8s40d 4s4e2 2s419 2s4e4 3ffff9s40c 800007s4e6 9ffffcs4ee 2s40e 2s4f0 3s4f2",
  "7ffffds4f4 800000s4f8 400000s4ec 5ffffes4d1 2s4d3 5ffff9s453 3fffffs450 6s4d7 2s451 1ffffes4c2",
  "2s4dd 200000s4df 1ffff8s45d 4s4e3 2s439 2s4e5 3ffff9s45c 800007s4e7 9ffffcs4ef 2s45e 2s4f1 3s4f3",
  "7ffffds4f5 800000s4f9 400000s4ed 1200000s457 3c00007s476 200000s477 c5ffff9s4da 200000s4db",
  "1e00000s4ea 200000s4eb 27c0034bs622 1s623 1s625 41fffffs624 400000s626 ee00000s6c2 2200000s6d3",
  "600000s6c0 4a6002e8s929 1000000s931 600000s934 12800082s9cb 19s9cc 30000167sb4b 18sb48 1sb4c",
  "9600080sb94 67fffe7sbca 19sbcc 1fffe7sbcb fe00098sc48 f20007fscc0 dfffedscca 13scc7 1scc8",
  "7fffffsccb f800069sd4a 19sd4c 1fffe7sd4b 1240008csdda 5sddc 10sdde 5fffebsddd 49200264s1026",
  "15c000b07s1b06 400000s1b08 400000s1b0a 400000s1b0c 400000s1b0e 800000s1b12 5200000s1b3b",
  "400000s1b3d 400000s1b40 200000s1b41 600000s1b43 5e7fe7cfs1e38 200000s1e39 4600000s1e5c",
  "200000s1e5d e00003s1e68 200000s1e69 79ffffbs1eac 4s1eb6 1ffffcs1ead 4s1eb7 2dffffcs1ec6",
  "200000s1ec7 2600000s1ed8 200000s1ed9 65ffffes1f02 1s1f04 41s1f06 3s1f80 1fffbbs1f03 1s1f05",
  "41s1f07 3s1f81 200000s1f82 200000s1f83 200000s1f84 200000s1f85 200000s1f86 200000s1f87",
  "1fffbbs1f0a 1s1f0c 41s1f0e 3s1f88 1fffbbs1f0b 1s1f0d 41s1f0f 3s1f89 200000s1f8a 200000s1f8b",
  "200000s1f8c 200000s1f8d 200000s1f8e 200000s1f8f 1fffbbs1f12 1s1f14 1fffffs1f13 1s1f15",
  "dfffffs1f1a 1s1f1c 1fffffs1f1b 1s1f1d dfffffs1f22 1s1f24 41s1f26 3s1f90 1fffbbs1f23 1s1f25",
  "41s1f27 3s1f91 200000s1f92 200000s1f93 200000s1f94 200000s1f95 200000s1f96 200000s1f97",
  "1fffbbs1f2a 1s1f2c 41s1f2e 3s1f98 1fffbbs1f2b 1s1f2d 41s1f2f 3s1f99 200000s1f9a 200000s1f9b",
  "200000s1f9c 200000s1f9d 200000s1f9e 200000s1f9f 1fffbbs1f32 1s1f34 41s1f36 1fffbes1f33 1s1f35",
  "41s1f37 dfffbes1f3a 1s1f3c 41s1f3e 1fffbes1f3b 1s1f3d 41s1f3f dfffbes1f42 1s1f44 1fffffs1f43",
  "1s1f45 dfffffs1f4a 1s1f4c 1fffffs1f4b 1s1f4d dfffffs1f52 1s1f54 41s1f56 1fffbes1f53 1s1f55",
  "41s1f57 ffffbes1f5b 1s1f5d 41s1f5f dfffbes1f62 1s1f64 41s1f66 3s1fa0 1fffbbs1f63 1s1f65 41s1f67",
  "3s1fa1 200000s1fa2 200000s1fa3 200000s1fa4 200000s1fa5 200000s1fa6 200000s1fa7 1fffbbs1f6a",
  "1s1f6c 41s1f6e 3s1fa8 1fffbbs1f6b 1s1f6d 41s1f6f 3s1fa9 200000s1faa 200000s1fab 200000s1fac",
  "200000s1fad 200000s1fae 200000s1faf 200000s1fb2 800000s1fc2 1000000s1ff2 7400000s1fb7",
  "11fffbbs1fcd 1s1fce 41s1fcf e00003s1fc7 6000000s1ff7 ffffbbs1fdd 1s1fde 41s1fdf 323ffff6s219a",
  "400000s219b 400000s21ae 7800000s21cd 400000s21cf 400000s21ce 5e00000s2204 a00000s2209",
  "600000s220c 3000000s2224 400000s2226 2e00000s2241 e00000s2244 400000s2247 600000s2249",
  "a00000s226d 2800000s2262 600000s2270 200000s2271 1a00000s2274 200000s2275 600000s2278",
  "200000s2279 600000s2280 200000s2281 200000s22e0 200000s22e1 a00000s2284 200000s2285 600000s2288",
  "200000s2289 1400000s22e2 200000s22e3 2000000s22ac c00000s22ad 200000s22ae 400000s22af",
  "e00000s22ea 200000s22eb 200000s22ec 200000s22ed 1b2202d61s3094 a00000s304c 400000s304e",
  "400000s3050 400000s3052 400000s3054 400000s3056 400000s3058 400000s305a 400000s305c 400000s305e",
  "400000s3060 400000s3062 600000s3065 400000s3067 400000s3069 e00000s3070 1s3071 5fffffs3073",
  "1s3074 5fffffs3076 1s3077 5fffffs3079 1s307a 5fffffs307c 1s307d 43fffffs309e 1200000s30f4",
  "a00000s30ac 400000s30ae 400000s30b0 400000s30b2 400000s30b4 400000s30b6 400000s30b8 400000s30ba",
  "400000s30bc 400000s30be 400000s30c0 400000s30c2 600000s30c5 400000s30c7 400000s30c9 e00000s30d0",
  "1s30d1 5fffffs30d3 1s30d4 5fffffs30d6 1s30d7 5fffffs30d9 1s30da 5fffffs30dc 1s30dd 27fffffs30f7",
  "200000s30f8 200000s30f9 200000s30fa 1600000s30fe 1a9a9fd26es105c9 1000000s105e4 157e10db3s1109a",
  "400000s1109c 1400000s110ab 1180006ds1112e 200000s1112f 42a00217s1134b 19s1134c 7600072s11383",
  "3ffff2s11385 e00007s1138e a00007s11391 63fffefs113c7 as113c5 7s113c8 1ee000e7s114bc as114bb",
  "3s114be 1fe000f2s115ba 200000s115bb 6f800381s11938 8fd2047ees16121 1s16123 1s16125 9s16122",
  "5ffff6s16126 1s16128 1fffffs16127 e00000s16124 187400c48s16d69 800000s16d68 400000s16d6a"
]

def combiningRows : List String := [
  "0n0 300ne6 15ne8 1ndc 4ne8 1nd8 1ndc 5nca 2ndc 4nca 2ndc bn1 5ndc 4ne6 8nf0 1ne6 1ndc 3ne6 3ndc",
  "2n0 1ne6 3ndc 4ne6 1ne8 1ndc 2ne6 1ne9 1nea 2ne9 1nea 2ne9 1ne6 dn0 113ne6 5n0 109ndc 1ne6 4ndc",
  "1ne6 3nde 1ndc 1ne6 6ndc 6ne6 2ndc 1ne6 2nde 1ne4 1ne6 1na 1nb 1nc 1nd 1ne 1nf 1n10 1n11 1n12",
  "1n13 2n14 1n15 1n16 1n0 1n17 1n0 1n18 1n19 1n0 1ne6 1ndc 1n0 1n12 1n0 48ne6 8n1e 1n1f 1n20 1n0",
  "30n1b 1n1c 1n1d 1n1e 1n1f 1n20 1n21 1n22 1ne6 2ndc 2ne6 5ndc 1ne6 2ndc 1n0 10n23 1n0 65ne6 7n0",
  "2ne6 4ndc 1ne6 1n0 2ne6 2n0 1ndc 1ne6 2ndc 1n0 23n24 1n0 1ene6 1ndc 1ne6 2ndc 1ne6 2ndc 3ne6",
  "1ndc 2ne6 1ndc 1ne6 3ndc 1ne6 1ndc 1ne6 1ndc 1ne6 1ndc 1ne6 2n0 a0ne6 7ndc 1ne6 1n0 9ndc 1n0",
  "18ne6 4n0 1ne6 9n0 1ne6 3n0 1ne6 5n0 2bndc 3n0 3cne6 1ndc 3ne6 4n0 2ane6 5ndc 5ne6 en0 1ndc 1ne6",
  "2ndc 1ne6 2ndc 1ne6 3ndc 3n1b 1n1c 1n1d 1ne6 3ndc 1ne6 2ndc 2ne6 5n0 3cn7 1n0 10n9 1n0 3ne6 1ndc",
  "1ne6 2n0 67n7 1n0 10n9 1n0 30ne6 1n0 3dn7 1n0 10n9 1n0 6en7 1n0 10n9 1n0 6en7 1n0 10n9 1n0 7fn9",
  "1n0 6en7 1n0 10n9 1n0 7n54 1n5b 1n0 65n7 1n0 10n9 1n0 6dn9 2n0 10n9 1n0 7cn9 1n0 6dn67 2n9 1n0",
  "dn6b 4n0 6cn76 2n9 1n0 dn7a 4n0 4cndc 2n0 1bndc 1n0 1ndc 1n0 1nd8 1n0 37n81 1n82 1n0 1n84 1n0",
  "5n82 4n0 2n82 1n0 1ne6 2n9 1n0 1ne6 2n0 3endc 1n0 70n7 1n0 1n9 2n0 52ndc 1n0 2cfne6 3n0 3b4n9",
  "2n0 1en9 1n0 9dn9 1n0 ane6 1n0 cbne4 1n0 8fnde 1ne6 1ndc 1n0 dbne6 1ndc 1n0 47n9 1n0 14ne6 8n0",
  "2ndc 1n0 30ne6 5ndc 6ne6 2ndc 1n0 1ndc 2ne6 2ndc 2ne6 5ndc 1ne6 4n0 65n7 1n0 fn9 1n0 26ne6 1ndc",
  "1ne6 7n0 36n9 2n0 3an7 1n0 bn9 2n0 43n7 1n0 98ne6 3n0 1n1 1ndc 5ne6 2ndc 4ne6 1n0 1n1 7n0 4ndc",
  "1n0 6ne6 1n0 3ne6 2n0 c6ne6 2ndc 1ne6 7ndc 1ne6 2nea 1nd6 1ndc 1nca 1ne6 25ne8 1ne4 2ndc 1nda",
  "1ne6 1ne9 1ndc 1ne6 1ndc 1n0 2d0ne6 2n1 2ne6 4n1 3ne6 2n0 4ne6 1n0 3n1 2ne6 1ndc 1ne6 1n1 2ndc",
  "4ne6 1n0 bfene6 3n0 8dn9 1n0 60ne6 20n0 22anda 1ne4 1ne8 1nde 1ne0 2n0 69n8 2n0 75d4ne6 1n0 4ne6",
  "an0 20ne6 2n0 50ne6 2n0 114n9 1n0 25n9 1n0 97n9 1n0 1bne6 12n0 39ndc 3n0 25n9 1n0 5fn7 1n0 cn9",
  "1n0 efne6 1n0 1ne6 2ndc 1n0 2ne6 2n0 5ne6 2n0 1ne6 1n0 34n9 1n0 f6n9 1n0 4f30n1a 1n0 301ne6 7ndc",
  "7ne6 2n0 3cdndc 1n0 e2ndc 1n0 95ne6 5n0 692ndc 1n0 1ne6 1n0 28ne6 1n1 1ndc 1n0 4n9 1n0 a5ne6",
  "1ndc 1n0 23dne6 4n0 183ne6 2n0 50ndc 3n0 46ndc 2ne6 3ndc 1ne6 1ndc 4n0 31ne6 1ndc 1ne6 1ndc 1n0",
  "c0n9 1n0 29n9 1n0 en9 1n0 39n9 1n7 1n0 45ne6 3n0 30n9 2n0 3en7 1n0 4cn9 1n0 9n7 1n0 6an9 1n7 1n0",
  "b2n7 1n9 1n0 50n7 2n0 10n9 1n0 18ne6 7n0 3ne6 5n0 cdn9 1n0 3n7 1n0 17ne6 1n0 63n9 1n7 1n0 fbn9",
  "1n7 1n0 7en9 1n0 76n9 1n7 1n0 73n9 1n0 10dn9 1n7 1n0 102n9 2n0 4n7 1n0 9cn9 1n0 53n9 1n0 12n9",
  "1n0 51n9 1n0 1a5n9 1n0 102n7 1n0 1n9 2n0 51n9 1n0 1a9n9 2n0 4badn1 5n0 3bne6 7n0 4b9n6 2n0",
  "4cacn1 1n0 14c6nd8 2n1 3n0 3ne2 1nd8 5n0 8ndc 8n0 2ne6 5ndc 2n0 1ene6 4n0 94ne6 3n0 dbbne6 7n0",
  "1ne6 11n0 2ne6 7n0 1ne6 2n0 1ne6 5n0 64ne6 1n0 a0ne6 7n0 177ne6 1n0 3dne6 4n0 1fcne8 2ndc 1ne6",
  "1n0 3e0ndc 7n0 6dne6 6n7 1n0"
]

end LiveTail.Text.Normal

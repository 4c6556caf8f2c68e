/-! Classes of characters that the rules for labels ask for: directions and joining types. -/
namespace LiveTail.Idna

/-- Bidirectional classes: `l` and `r` for letters of either direction, `y` for Arabic letters, `u`
and `n` for Arabic and European numbers, `p`, `o` and `t` for what goes with numbers, `m` for marks,
`k` for boundary neutrals, `z` for other neutrals, `w` for the rest. -/
def directionRows : List String := [
  "0k 9w 5k ew 5z 2t 3z 5p 1o 1p 1o 2n ao 1z 6l 1az 6l 1az 4k 6w 1k 1ao 1z 1t 4z 4l 1z 2k 1z 2t 2n",
  "2z 1l 1z 3n 1l 1z 5l 17z 1l 1fz 1l 1c1z 2l 7z el 2z el 5z 9l 1z 11m 70l 4z 2l 8z 1l 5z 2l 1z 1l",
  "6ez 1l 8cm 7l 100z 1l 2z 2t 1r 1m 2dr 1m 1r 1m 2r 1m 2r 1m 1r 38u 6z 2y 1t 2y 1o 1y 1z 2m by 30m",
  "15u at 1u 2y 3m 1y 65m 7u 1z 1m 6y 2m 2z 1m 4y 2n ay 17m 1y 1em 1by 5bm by fr 2bm 9r 2z 4r 3m 1r",
  "18m 4r 1m 9r 1m 3r 1m 5r 2bm 3r 4y 30u 2y 6m 8y 2am 18u 1m 20l 37m 1l 1m 1l 4m 8l 4m 1l 3m 7l am",
  "2l 1dm 1l 3am 1l 4m 4l 8m 1l 14m 2l et 2l 7t 1l 2m 1l 2m 2l 39m 1l 4m 2l 4m 2l 2m 3l 3m 1l 1em",
  "2l 3m 1l bm 2l 39m 1l 4m 5l 1m 2l 4m 1l 14m 2l dt 1l 8m 6l 1m 1l 3am 1l 2m 1l 1m 4l 8m 1l 7m 2l",
  "bm 2l 1em 1l 3dm 1l cm 1l 25z 6t 1z 1l 5m 1l 3m 1l 37m 1l 1m 3l 5m 3l 1m 4l 7m 2l bm 2l 14z 7l",
  "2m 1l 3am 1l fm 2l 14m 2l 1cm 2l 39m 2l 4m 4l 8m 1l 14m 2l 1dm 1l 48m 1l 7m 3l 1m 1l 5am 1l 2m",
  "7l 4t 1l 7m 8l 62m 1l 2m 9l bm 7l 49m 2l 1bm 1l 1m 1l 1m 1z 4l 33m el 1m 5l 1m 2l 5m bl 1m 24l",
  "9m 1l 66m 4l 1m 6l 1m 2l 2m 2l 19m 2l 4m 3l 10m 4l dm 1l 2m 2l 6m 1l fm 1l 2bfm 3l 30z al 66z 1l",
  "27fw 1l 1az 2l 75m 3l 1dm 2l 1em 2l 1em 2l 40m 2l 1m 7l 8m 1l 2m bl 7t 1l 1m 1l 12z al 6z bm 3k",
  "1m 1l 75m 2l 22m 1l 76m 3l 4m 2l 9m 1l 6m 3l 4z 1l 3z 2l 98z 22l 17m 2l 2m 1l 3am 1l 1m 7l 1m 1l",
  "1m 1l 2m 8l 6m al 2m 1l 30m 1fl 31m 4l 30m 1l 1m 5l 1m 1l 5m 1l 28m 9l cm 2l 20m 4l 2m 2l 1m 3l",
  "38m 1l 1m 2l 3m 1l 1m 3l 3am 8l 2m 2l 98m 3l 1m dl 1m 7l 4m 1l 6m 1l 3m 2l c6m 40l 1bdz 1l 1z 3l",
  "bz 3l dz 3l dz 3l dz 2l 1w bk 3l 1r 1z 18w 7o 1t 5z fo 1z 1aw 1k 6w 4k 6n 1l 3n 6p 2z 3l 1n ap",
  "2z 3l 11t 30m 21l fz 2l 1z 4l 1z 2l az 1l 1z 3l 5z 6l 1z 1l 1z 1l 1z 1l 4t 1l bz 2l 4z 5l 5z 4l",
  "2z 10l 29z 3l 4z 82p 1t 1z 122l 45z 1al 1z 91l 19z bl 15z 28n 14l 4ez 1c2l 1z 153l 100z 274l 2z",
  "20l 1z 69l e5z 6l 4m 3l 7z 7l 7fm 1l 60m 20z 5el 22z 1al 1z 59l cz d6l 1az cl 4w 1z 4l 3z 19l 9m",
  "4l 2z 1l 5z 2l 5z 3l 59m 2z 2l 3z 1l 5az 1l c4z 24l 39z 2l 31z 10l 1cz 3l 32z fl cz 4l a7z 4l",
  "63z 2l 1fz 1l 19c0z 40l 5690z 37l 146z 3l 5fm 4z 1m az 2l 1em 2l 50m 2l ez 22l 66z 1l 79m 1l 3m",
  "1l 4m 1l 19m 2l 1z 4m 1l bt 2l 3az 4l 4cm 2l 1am 12l dm 1l 26m 8l 19m bl 2em 3l 30m 1l 2m 4l 2m",
  "2l 27m 1l 43m 6l 2m 2l 2m 2l cm 1l 8m 1l 2fm 1l 33m 1l 1m 3l 2m 2l 5m 2l 1m 1l 2am 2l 8m 1l 73z",
  "2l 79m 1l 2m 1l 4m 1l 4f2fr 1m 1r ap 1r 26y 1eez 12y 7fz 1k 20y dz 3m 10z al 6m 10z 20o 1z 1o 1l",
  "1z 1o 1z 9t 1z 2p 2z 3l 1z 1t 2z 1l 4y 8fk 1l 1z 2t 3z 5p 1o 1p 1o 2n ao 1z 6l 1az 6l 1az bl 7at",
  "2z 3t 2l 1z 7l 1k 9z 5k 2l 101z 1l 3ez 4dl 3z dl 3z 1l 5cm 1l e2m 1n 1bl 7am 5l 485r 11fz 1r e1m",
  "3r 1m 2r 5m 4r 28m 3r 4m 1r a5m 2r 52z 7r 1c0y 24m 4y 8u ay 6r 120u 1fr 2cm 2r 13y 3dm 3r 30y",
  "16m by 1fr 12m 4r 7al 1m 1l 36m fl bz 14l am 1l 2m 2l am 3l 31m 4l 2m 2l 7m 1l 3dm 3l 24m 5l 1m",
  "8l 3em 1l cm 2l 34m 9l am 4l 2m 1l 5fm 3l 2m 1l 1m 2l 6m 1l 2m 1l 9dm 1l 3m 8l 15m 2l 39m 2l 3m",
  "1l 25m 7l 3m 5l c3m 8l 2m 3l 1m 1l 17m 1l 54m 6l 1m 1l 4m 2l 1m 2l eem 4l 6m 2l 1m 2l 1bm 2l 55m",
  "8l 2m 1l 1m 2l 1fz dl 3em 1l 1m 1l 2m 6l 1m 1l 65m 3l 2m 4l 1m 5l 103m 9l 1m 2l 100m 2l 1m 1l 4m",
  "1l 90m 4l 2m 2l 4m 1l 20m 6l 2m 2l 28m 6l 2m 4l 8m 1l 9m 6l 2m 3l 2em dl 1m 2l 196m 7l 1m 6l 54m",
  "16l 2m 7l 1m 2l 1m 2l 7am 6l 3m 1l 1m 2l 1m 7l 1m 1l 48m 2l 3m 1l 1m 1l 15bm 2l bm 2l 34m 5l 5m",
  "1l 1m 1l 92z 8t 4z 11l 144em 1l 6m fl 369am 5l 3bm 7l 418m 1l 3fm 4l 4fz 1l 1m 1l 4cb8m 2l 1k 4l",
  "125cm 2el 2m 17l 220m 3l 9k 8m 8l 2m 7l 1em 4l 3bz 2l 15z 42m 3z 1l baz 57l 384z 1l 39z 1l 39z",
  "1l 39z 1l 39z 1l an 32l 200m 37l 4m 32l 8m 1l em 1l 16m 5l 1m fl 550m 7l 1m 11l 2m 7l 1m 2l 1m",
  "5l 64m 1l a0m 7l 177m 1l 3dm 4l ft 1l 1ecm 4l 310r d0m 7r 6dm 7r 325y 50r 40y 50r b0y f0z 2y er",
  "100z 2cl 4z 64l cz fl 2z fl 1z fl 1z 25l an bz 5l 1fz 1l 3az 6l 3dz 1l b2z 6l 9az 3d8l 4z 11l 3z",
  "dl 3z 77l 4z 5fl 6z cl 4z 1l fz cl 4z 38l 8z al 6z 28l 8z 1el 2z 2l 4ez 154l cz el 2z dl 3z 9l",
  "7z 2el 1z 7l 8z el 4z 9l 7z 9l 7z 93l 1z 37l 25n al 404k 2l fffek 2l fffek 2l fffek 2l fffek 2l",
  "fffek 2l fffek 2l fffek 2l fffek 2l fffek 2l fffek 2l fffek 2l fffek 102m f0k e10l effek 2l",
  "fffek 2l fffek 2l"
]

/-- Joining types: `w` for both sides, `l` and `r` for one side, `t` for transparent ones, `j` for
those that cause joining, `u` for the rest. -/
def joiningRows : List String := [
  "0u adt 1u 252t 70u 113t 7u 107t 2du 1t 1u 1t 2u 1t 2u 1t 1u 48t bu 1t 1u 3w 1u 1r 4w 1r 1w 1r 1w",
  "5r 4w dj 1w 7r 1w 2t 15u ew 2t 1r 3u 1r 3w 10r 12w 26r 1w 2r 9w 1r 1w 1r 1w 2r 2u 1r 1t 7u 2t 6u",
  "2t 2u 1t 4r 2u aw 3u 2w 1u ft 1r 1t 1w 3r 5w 4r 1w 9r 1w 1r 1w 1r 1w 2r 1t 1bu 2r 1w br 3w fr 2w",
  "4r 1w 1r 2w 3r 2w 6u 26t bu 19w 21t 9u 6j 1u 2t 1u 18t 4u 1t 9u 1t 3u 1t 5u 12r 1w 5r 2w 1r 1w",
  "ar 1w 1r 3t 3u 4w 1u 1w 4u 1r 1w 1r 2u 5r 13j 3w 1u 2w 5r 1w 1u 7t 9w ar 3u 1r 1w 2r 2w 6r 1w fu",
  "1t 18u 1t 20u 37t 1u 1t 1u 4t 8u 4t 1u 3t 7u at 2u 1dt 1u 3at 1u 4t 4u 8t 1u 14t 2u 1at 1u 2t 2u",
  "39t 1u 4t 2u 4t 2u 2t 3u 3t 1u 1et 2u 3t 1u bt 2u 39t 1u 4t 5u 1t 2u 4t 1u 14t 2u 16t 6u 1t 1u",
  "3at 1u 2t 1u 1t 4u 8t 1u 7t 2u bt 2u 1et 1u 3dt 1u ct 1u 32t 1u 3t 1u 37t 1u 1t 3u 5t 3u 1t 4u",
  "7t 2u bt 2u 1dt 1u 3at 1u 2t 1u 6t 1u 5t 2u 14t 2u 1ct 2u 39t 2u 4t 4u 8t 1u 14t 2u 1dt 1u 48t",
  "1u 7t 3u 1t 1u 5at 1u 2t 7u ct 8u 62t 1u 2t 9u bt 7u 49t 2u 1bt 1u 1t 1u 1t 1u 37t eu 1t 5u 1t",
  "2u 5t bu 1t 24u 9t 1u 66t 4u 1t 6u 1t 2u 2t 2u 19t 2u 4t 3u 10t 4u dt 1u 2t 2u 6t 1u ft 1u 2bft",
  "3u 3b2t 3u 1dt 2u 1et 2u 1et 2u 40t 2u 1t 7u 8t 1u 2t bu 9t 1u 29w 1u 2j 1t 3u 1t 1u 10w 59u ct",
  "2w 22t 1w 1u 75t 3u 4t 2u 9t 1u 6t 3u dbt 2u 2t 1u 3at 1u 1t 7u 1t 1u 1t 1u 2t 8u 6t au 2t 1u",
  "30t 2eu 2t cu 14t 4u 30t 1u 1t 5u 1t 1u 5t 1u 28t 9u ct 2u 20t 4u 2t 2u 1t 3u 38t 1u 1t 2u 3t 1u",
  "1t 3u 3at 8u 2t 2u 98t 3u 1t du 1t 7u 4t 1u 6t 1u 3t 2u c6t 40u 20bt 1u 1j 1t 2u 1at 5u 31t 5u",
  "5t 6u 60t 21u bfet 3u 8dt 1u 60t 20u 22at 4u 6bt 2u 75d4t 4u 1t au 20t 2u 50t 2u 110t 1u 3t 1u",
  "4t 1u 19t 2u 5t 1u 13w 32l 1u 51t 2u 1at 12u dt 1u 26t 8u 19t bu 2et 3u 30t 1u 2t 4u 2t 2u 27t",
  "1u 43t 6u 2t 2u 2t 2u ct 1u 8t 1u 2ft 1u 33t 1u 1t 3u 2t 2u 5t 2u 1t 1u 2at 2u 8t 1u eet 1u 2t",
  "1u 4t 1u 4f30t 1u 2e1t 10u 10t 10u cft 1u f9t 3u 201t 1u e2t 1u 95t 5u 686t 3u 1t 2u 5t 4u 28t",
  "3u 4t 1u 80w 5r 1u 1r 1u 1r 2u 2l 1r 5w 4l 1w 5r 1w 3r 1u 2r 1t 2u 4w 4r 1u 90w 1r 1w 1r 3w 3r",
  "1w 2r 1w 1r 2w 1r 1u 17r 4w 2u 151l 1w 21r 1w 1t 4u 41t 5u 13dt 2u 15r 1w 2u 1w 2u 32t 6u 30w 3r",
  "1w 11u 1t bw 3r 1u 1bw 4r 2w ct 4u 2aw 1u 1w 2r 3u 1w 1r 2w 2r 1w 2u 1w 1r 2w 1u 4r 1w 1l 1u 35t",
  "1u 36t fu 29t 1u 2t 2u at 3u 31t 4u 2t 2u 7t 1u 3dt 3u 24t 5u 1t 8u 3et 1u ct 2u 34t 9u at 4u 2t",
  "1u 5ft 3u 2t 1u 1t 2u 6t 1u 2t 1u 9dt 1u 3t 8u 15t 2u 39t 2u 3t 1u 25t 7u 3t 5u 46t 6u dt 1u 1t",
  "1u 1t 1u et 2u 55t 8u 2t 3u 1t 1u 17t 1u 54t 6u 1t 1u 4t 2u 1t 2u eet 4u 6t 2u 1t 2u 1bt 2u 55t",
  "8u 2t 1u 1t 2u 6at 1u 1t 1u 2t 6u 1t 1u 65t 1u 1t 1u 2t 4u 1t 5u 103t 9u 1t 2u 100t 2u 1t 1u 4t",
  "1u 90t 4u 2t 2u 4t 1u 20t au 28t 6u 2t 4u 8t 1u 9t 6u 2t 3u 2et du 1t 2u c6t 1u 1t 3u 1t 1u c9t",
  "7u 1t 6u 1t 1u 52t 16u 2t 7u 1t 2u 1t 2u 7at 6u 3t 1u 1t 2u 1t 7u 1t 1u 48t 2u 3t 1u 1t 1u 15bt",
  "2u bt 2u 34t 5u 5t 1u 1t 1u 17t 1u 14d5t 11u 6t fu 2cc8t cu 3t 3u 9c0t 5u 3bt 7u 418t 1u 3ft 4u",
  "51t 1u 4cb8t 2u 1t 4u 125ct 2eu 2t 17u 220t 3u 9t 10u 2t 7u 1et 4u 94t 3u 7bbt 37u 4t 32u 8t 1u",
  "et 1u 16t 5u 1t fu 550t 7u 1t 11u 2t 7u 1t 2u 1t 5u 64t 1u a0t 7u 177t 1u 3dt 4u 1fct 4u fet 2u",
  "f3t 1u 2t 1u 7t 2u 5t 1u 1dat 7u 29w 44t 8u c16b5t 1u 1et 60u 80t f0u"
]

end LiveTail.Idna

/-!
# Composition data

The combining classes of the characters that a domain name may contain, and the
pairs of them that are written as one character. Characters in neither table are
of class zero and compose with nothing, Hangul syllables excepted.
-/

namespace VmLaunch.Domain.ComposeData

/-- Rows of a first character and, for each second one, the second and the composed character. -/
def pairs : List String :=
  [
    "3C 338+226E, 3D 338+2260, 3E 338+226F",
    "61 300+E0 301+E1 302+E2 303+E3 304+101 306+103 307+227 308+E4 309+1EA3 30A+E5 30C+1CE " ++
      "30F+201 311+203 323+1EA1 325+1E01 328+105",
    "62 307+1E03 323+1E05 331+1E07, 63 301+107 302+109 307+10B 30C+10D 327+E7",
    "64 307+1E0B 30C+10F 323+1E0D 327+1E11 32D+1E13 331+1E0F",
    "65 300+E8 301+E9 302+EA 303+1EBD 304+113 306+115 307+117 308+EB 309+1EBB 30C+11B 30F+205 " ++
      "311+207 323+1EB9 327+229 328+119 32D+1E19 330+1E1B",
    "66 307+1E1F, 67 301+1F5 302+11D 304+1E21 306+11F 307+121 30C+1E7 327+123",
    "68 302+125 307+1E23 308+1E27 30C+21F 323+1E25 327+1E29 32E+1E2B 331+1E96",
    "69 300+EC 301+ED 302+EE 303+129 304+12B 306+12D 308+EF 309+1EC9 30C+1D0 30F+209 311+20B " ++
      "323+1ECB 328+12F 330+1E2D",
    "6A 302+135 30C+1F0, 6B 301+1E31 30C+1E9 323+1E33 327+137 331+1E35",
    "6C 301+13A 30C+13E 323+1E37 327+13C 32D+1E3D 331+1E3B, 6D 301+1E3F 307+1E41 323+1E43",
    "6E 300+1F9 301+144 303+F1 307+1E45 30C+148 323+1E47 327+146 32D+1E4B 331+1E49",
    "6F 300+F2 301+F3 302+F4 303+F5 304+14D 306+14F 307+22F 308+F6 309+1ECF 30B+151 30C+1D2 " ++
      "30F+20D 311+20F 31B+1A1 323+1ECD 328+1EB",
    "70 301+1E55 307+1E57, 72 301+155 307+1E59 30C+159 30F+211 311+213 323+1E5B 327+157 331+1E5F",
    "73 301+15B 302+15D 307+1E61 30C+161 323+1E63 326+219 327+15F",
    "74 307+1E6B 308+1E97 30C+165 323+1E6D 326+21B 327+163 32D+1E71 331+1E6F",
    "75 300+F9 301+FA 302+FB 303+169 304+16B 306+16D 308+FC 309+1EE7 30A+16F 30B+171 30C+1D4 " ++
      "30F+215 311+217 31B+1B0 323+1EE5 324+1E73 328+173 32D+1E77 330+1E75",
    "76 303+1E7D 323+1E7F, 77 300+1E81 301+1E83 302+175 307+1E87 308+1E85 30A+1E98 323+1E89",
    "78 307+1E8B 308+1E8D",
    "79 300+1EF3 301+FD 302+177 303+1EF9 304+233 307+1E8F 308+FF 309+1EF7 30A+1E99 323+1EF5",
    "7A 301+17A 302+1E91 307+17C 30C+17E 323+1E93 331+1E95",
    "E2 300+1EA7 301+1EA5 303+1EAB 309+1EA9, E4 304+1DF, E5 301+1FB, E6 301+1FD 304+1E3",
    "E7 301+1E09, EA 300+1EC1 301+1EBF 303+1EC5 309+1EC3, EF 301+1E2F",
    "F4 300+1ED3 301+1ED1 303+1ED7 309+1ED5, F5 301+1E4D 304+22D 308+1E4F, F6 304+22B, F8 301+1FF",
    "FC 300+1DC 301+1D8 304+1D6 30C+1DA, 103 300+1EB1 301+1EAF 303+1EB5 309+1EB3",
    "113 300+1E15 301+1E17, 14D 300+1E51 301+1E53, 15B 307+1E65, 161 307+1E67, 169 301+1E79",
    "16B 308+1E7B, 1A1 300+1EDD 301+1EDB 303+1EE1 309+1EDF 323+1EE3",
    "1B0 300+1EEB 301+1EE9 303+1EEF 309+1EED 323+1EF1, 1EB 304+1ED, 227 304+1E1, 229 306+1E1D",
    "22F 304+231, 292 30C+1EF, 3B1 300+1F70 301+3AC 304+1FB1 306+1FB0 313+1F00 314+1F01 342+1FB6",
    "3B5 300+1F72 301+3AD 313+1F10 314+1F11, 3B7 300+1F74 301+3AE 313+1F20 314+1F21 342+1FC6",
    "3B9 300+1F76 301+3AF 304+1FD1 306+1FD0 308+3CA 313+1F30 314+1F31 342+1FD6",
    "3BF 300+1F78 301+3CC 313+1F40 314+1F41, 3C1 313+1FE4 314+1FE5",
    "3C5 300+1F7A 301+3CD 304+1FE1 306+1FE0 308+3CB 313+1F50 314+1F51 342+1FE6",
    "3C9 300+1F7C 301+3CE 313+1F60 314+1F61 342+1FF6, 3CA 300+1FD2 301+390 342+1FD7",
    "3CB 300+1FE2 301+3B0 342+1FE7, 430 306+4D1 308+4D3, 433 301+453, 435 300+450 306+4D7 308+451",
    "436 306+4C2 308+4DD, 437 308+4DF, 438 300+45D 304+4E3 306+439 308+4E5, 43A 301+45C",
    "43E 308+4E7, 443 304+4EF 306+45E 308+4F1 30B+4F3, 447 308+4F5, 44B 308+4F9, 44D 308+4ED",
    "456 308+457, 475 30F+477, 4D9 308+4DB, 4E9 308+4EB, 627 653+622 654+623 655+625, 648 654+624",
    "64A 654+626, 6C1 654+6C2, 6D2 654+6D3, 6D5 654+6C0, 928 93C+929, 930 93C+931, 933 93C+934",
    "9C7 9BE+9CB 9D7+9CC, B47 B3E+B4B B56+B48 B57+B4C, B92 BD7+B94, BC6 BBE+BCA BD7+BCC",
    "BC7 BBE+BCB, C46 C56+C48, CBF CD5+CC0, CC6 CC2+CCA CD5+CC7 CD6+CC8, CCA CD5+CCB",
    "D46 D3E+D4A D57+D4C, D47 D3E+D4B, DD9 DCA+DDA DCF+DDC DDF+DDE, DDC DCA+DDD, 1025 102E+1026",
    "1B05 1B35+1B06, 1B07 1B35+1B08, 1B09 1B35+1B0A, 1B0B 1B35+1B0C, 1B0D 1B35+1B0E",
    "1B11 1B35+1B12, 1B3A 1B35+1B3B, 1B3C 1B35+1B3D, 1B3E 1B35+1B40, 1B3F 1B35+1B41",
    "1B42 1B35+1B43, 1E37 304+1E39, 1E5B 304+1E5D, 1E63 307+1E69, 1EA1 302+1EAD 306+1EB7",
    "1EB9 302+1EC7, 1ECD 302+1ED9, 1F00 300+1F02 301+1F04 342+1F06",
    "1F01 300+1F03 301+1F05 342+1F07, 1F10 300+1F12 301+1F14, 1F11 300+1F13 301+1F15",
    "1F20 300+1F22 301+1F24 342+1F26, 1F21 300+1F23 301+1F25 342+1F27",
    "1F30 300+1F32 301+1F34 342+1F36, 1F31 300+1F33 301+1F35 342+1F37, 1F40 300+1F42 301+1F44",
    "1F41 300+1F43 301+1F45, 1F50 300+1F52 301+1F54 342+1F56, 1F51 300+1F53 301+1F55 342+1F57",
    "1F60 300+1F62 301+1F64 342+1F66, 1F61 300+1F63 301+1F65 342+1F67, 2190 338+219A",
    "2192 338+219B, 2194 338+21AE, 21D0 338+21CD, 21D2 338+21CF, 21D4 338+21CE, 2203 338+2204",
    "2208 338+2209, 220B 338+220C, 2223 338+2224, 2225 338+2226, 223C 338+2241, 2243 338+2244",
    "2245 338+2247, 2248 338+2249, 224D 338+226D, 2261 338+2262, 2264 338+2270, 2265 338+2271",
    "2272 338+2274, 2273 338+2275, 2276 338+2278, 2277 338+2279, 227A 338+2280, 227B 338+2281",
    "227C 338+22E0, 227D 338+22E1, 2282 338+2284, 2283 338+2285, 2286 338+2288, 2287 338+2289",
    "2291 338+22E2, 2292 338+22E3, 22A2 338+22AC, 22A8 338+22AD, 22A9 338+22AE, 22AB 338+22AF",
    "22B2 338+22EA, 22B3 338+22EB, 22B4 338+22EC, 22B5 338+22ED, 3046 3099+3094, 304B 3099+304C",
    "304D 3099+304E, 304F 3099+3050, 3051 3099+3052, 3053 3099+3054, 3055 3099+3056",
    "3057 3099+3058, 3059 3099+305A, 305B 3099+305C, 305D 3099+305E, 305F 3099+3060",
    "3061 3099+3062, 3064 3099+3065, 3066 3099+3067, 3068 3099+3069, 306F 3099+3070 309A+3071",
    "3072 3099+3073 309A+3074, 3075 3099+3076 309A+3077, 3078 3099+3079 309A+307A",
    "307B 3099+307C 309A+307D, 309D 3099+309E, 30A6 3099+30F4, 30AB 3099+30AC, 30AD 3099+30AE",
    "30AF 3099+30B0, 30B1 3099+30B2, 30B3 3099+30B4, 30B5 3099+30B6, 30B7 3099+30B8",
    "30B9 3099+30BA, 30BB 3099+30BC, 30BD 3099+30BE, 30BF 3099+30C0, 30C1 3099+30C2",
    "30C4 3099+30C5, 30C6 3099+30C7, 30C8 3099+30C9, 30CF 3099+30D0 309A+30D1",
    "30D2 3099+30D3 309A+30D4, 30D5 3099+30D6 309A+30D7, 30D8 3099+30D9 309A+30DA",
    "30DB 3099+30DC 309A+30DD, 30EF 3099+30F7, 30F0 3099+30F8, 30F1 3099+30F9, 30F2 3099+30FA",
    "30FD 3099+30FE, 105D2 307+105C9, 105DA 307+105E4, 11099 110BA+1109A, 1109B 110BA+1109C",
    "110A5 110BA+110AB, 11131 11127+1112E, 11132 11127+1112F, 11347 1133E+1134B 11357+1134C",
    "11382 113C9+11383, 11384 113BB+11385, 1138B 113C2+1138E, 11390 113C9+11391",
    "113C2 113B8+113C7 113C2+113C5 113C9+113C8, 114B9 114B0+114BC 114BA+114BB 114BD+114BE",
    "115B8 115AF+115BA, 115B9 115AF+115BB, 11935 11930+11938",
    "1611E 1611E+16121 1611F+16123 16120+16125 16129+16122, 16121 1611F+16126 16120+16128",
    "16122 1611F+16127, 16129 1611F+16124, 16D63 16D67+16D69, 16D67 16D67+16D68",
    "16D69 16D67+16D6A"]

/-- Lines of a combining class and the characters that have it. -/
def classes : List (Nat × String) :=
  [
    (1, "334-338 1CD4 1CE2-1CE8 20D2-20D3 20D8-20DA 20E5-20E6 20EA-20EB 10A39 16AF0-16AF4 1BC9E"),
    (1, "1D167-1D169"),
    (6, "16FF0-16FF1"),
    (7, "93C 9BC A3C ABC B3C C3C CBC 1037 1B34 1BE6 1C37 A9B3 110BA 11173 111CA 11236 112E9"),
    (7, "1133B-1133C 11446 114C3 115C0 116B7 1183A 11943 11D42 1E94A"),
    (8, "3099-309A"),
    (9, "94D 9CD A4D ACD B4D BCD C4D CCD D3B-D3C D4D DCA E3A EBA F84 1039-103A 1714-1715 1734"),
    (9, "17D2 1A60 1B44 1BAA-1BAB 1BF2-1BF3 2D7F A806 A82C A8C4 A953 A9C0 AAF6 ABED 10A3F 11046"),
    (9, "11070 1107F 110B9 11133-11134 111C0 11235 112EA 1134D 113CE-113D0 11442 114C2 115BF"),
    (9, "1163F 116B6 1172B 11839 1193D-1193E 119E0 11A34 11A47 11A99 11C3F 11D44-11D45 11D97"),
    (9, "11F41-11F42 1612F"),
    (10, "5B0"),
    (11, "5B1"),
    (12, "5B2"),
    (13, "5B3"),
    (14, "5B4"),
    (15, "5B5"),
    (16, "5B6"),
    (17, "5B7"),
    (18, "5B8 5C7"),
    (19, "5B9-5BA"),
    (20, "5BB"),
    (21, "5BC"),
    (22, "5BD"),
    (23, "5BF"),
    (24, "5C1"),
    (25, "5C2"),
    (26, "FB1E"),
    (27, "64B 8F0"),
    (28, "64C 8F1"),
    (29, "64D 8F2"),
    (30, "618 64E"),
    (31, "619 64F"),
    (32, "61A 650"),
    (33, "651"),
    (34, "652"),
    (35, "670"),
    (36, "711"),
    (84, "C55"),
    (91, "C56"),
    (103, "E38-E39"),
    (107, "E48-E4B"),
    (118, "EB8-EB9"),
    (122, "EC8-ECB"),
    (129, "F71"),
    (130, "F72 F7A-F7D F80"),
    (132, "F74"),
    (202, "321-322 327-328 1DD0"),
    (214, "1DCE"),
    (216, "31B F39 1D165-1D166 1D16E-1D172"),
    (218, "1DFA 302A"),
    (220, "316-319 31C-320 323-326 329-333 339-33C 347-349 34D-34E 353-356 359-35A 591 596 59B"),
    (220,
      "5A2-5A7 5AA 5C5 655-656 65C 65F 6E3 6EA 6ED 731 734 737-739 73B-73C 73E 742 744 746 748"),
    (220,
      "7F2 7FD 859-85B 899-89B 8CF-8D3 8E3 8E6 8E9 8ED-8EF 8F6 8F9-8FA 952 F18-F19 F35 F37 FC6"),
    (220, "108D 193B 1A18 1A7F 1AB5-1ABA 1ABD 1ABF-1AC0 1AC3-1AC4 1ACA 1ADD 1AE6 1B6C 1CD5-1CD9"),
    (220, "1CDC-1CDF 1CED 1DC2 1DCA 1DCF 1DF9 1DFD 1DFF 20E8 20EC-20EF A92B-A92D AAB4 FE27-FE2D"),
    (220, "101FD 102E0 10A0D 10A3A 10AE6 10EFA-10EFB 10EFD-10EFF 10F46-10F47 10F4B 10F4D-10F50"),
    (220, "10F83 10F85 1D17B-1D182 1D18A-1D18B 1E4EE 1E5EF 1E8D0-1E8D6"),
    (222, "59A 5AD 1939 302D"),
    (224, "302E-302F"),
    (226, "1D16D"),
    (228, "5AE 18A9 1DF7-1DF8 302B"),
    (230,
      "300-314 33D-346 34A-34C 350-352 357 35B 363-36F 483-487 592-595 597-599 59C-5A1 5A8-5A9"),
    (230,
      "5AB-5AC 5AF 5C4 610-617 653-654 657-65B 65D-65E 6D6-6DC 6DF-6E2 6E4 6E7-6E8 6EB-6EC 730"),
    (230,
      "732-733 735-736 73A 73D 73F-741 743 745 747 749-74A 7EB-7F1 7F3 816-819 81B-823 825-827"),
    (230,
      "829-82D 897-898 89C-89F 8CA-8CE 8D4-8E1 8E4-8E5 8E7-8E8 8EA-8EC 8F3-8F5 8F7-8F8 8FB-8FF"),
    (230, "951 953-954 9FE F82-F83 F86-F87 135D-135F 17DD 193A 1A17 1A75-1A7C 1AB0-1AB4 1ABB-1ABC"),
    (230, "1AC1-1AC2 1AC5-1AC9 1ACB-1ADC 1AE0-1AE5 1AE7-1AEA 1B6B 1B6D-1B73 1CD0-1CD2 1CDA-1CDB"),
    (230, "1CE0 1CF4 1CF8-1CF9 1DC0-1DC1 1DC3-1DC9 1DCB-1DCC 1DD1-1DF5 1DFB 1DFE 20D0-20D1"),
    (230, "20D4-20D7 20DB-20DC 20E1 20E7 20E9 20F0 2CEF-2CF1 2DE0-2DFF A66F A674-A67D A69E-A69F"),
    (230, "A6F0-A6F1 A8E0-A8F1 AAB0 AAB2-AAB3 AAB7-AAB8 AABE-AABF AAC1 FE20-FE26 FE2E-FE2F"),
    (230, "10376-1037A 10A0F 10A38 10AE5 10D24-10D27 10D69-10D6D 10EAB-10EAC 10F48-10F4A 10F4C"),
    (230, "10F82 10F84 11100-11102 11366-11374 1145E 16B30-16B36 1D185-1D189 1D1AA-1D1AD"),
    (230, "1D242-1D244 1E000-1E08F 1E130-1E136 1E2AE 1E2EC-1E2EF 1E4EF 1E5EE 1E6E3 1E6E6"),
    (230, "1E6EE-1E6EF 1E6F5 1E944-1E949"),
    (232, "315 31A 358 1DF6 302C 1E4EC-1E4ED"),
    (233, "35C 35F 362 1DFC"),
    (234, "35D-35E 360-361 1AEB 1DCD")]

end VmLaunch.Domain.ComposeData

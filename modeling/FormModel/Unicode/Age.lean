import FormModel.Unicode.Runs

/-!
The version of Unicode that first assigned each code point.  A version is written as a number, 151 for 15.1.
-/

namespace FormModel.Unicode

/-- Runs of one version in three digits; `000` stands for code points that are not assigned. -/
def ageLines : List String := [
  "0111F6 0304 0111E 0308 0321 0401 03012 0403 041B 050E 01159 0305 0402 0112F 0301 011A 0305",
  "04011 01146 0309 0321 0408 0415 0403 0112 0301 032D 0514 0112 0512 0002 0111 0503 0111 0701",
  "0004 0117 0001 0111 0001 01114 0001 0112C 0511 0117 0301 0322 0111 0301 0111 0301 0111 0301",
  "0111 0301 01112 0312 0321 0405 0414 0301 011C 0301 01142 0301 011C 0301 01129 0511 0302 0322",
  "0304 01135 0322 0112 0322 0112 0322 0501 0111C 0302 0118 0412 0112 0506 03210 0504 05110 0522",
  "0602 0708 0001 01126 0002 0117 1101 01127 1101 0111 0301 0002 0702 0611 0001 02011 0411 020D",
  "011A 0501 0119 0201 0413 0008 0111B 0004 1101 0115 000B 0404 0611 0701 0515 0411 0111 0409 0515",
  "0111 0631 1401 0411 0111 0601 0111A 0515 01113 0303 0403 0416 0601 011E 0322 01148 0302 0115",
  "0301 011F 0301 0111E 0402 011A 0305 0401 030E 0001 0301E 0403 0301B 0002 0403 0411E 05112 03031",
  "0321 000E 0503B 0002 1103 0522E 0002 052F 0001 0601C 0002 0601 0001 100B 0005 1401F 0001 1402",
  "0005 1601 1408 0611 0701 061B 0706 0802 1401 0908 130A 140B 1101 090F 0801 0611B 0701 0521 0113",
  "0401 01135 0602 01112 0521 0601 0115 0521 0602 01119 0512 0605 0701 0522 0502 0411 0502 0701",
  "0113 0001 0118 0002 0112 0002 01116 0001 0117 0001 0111 0003 0114 0002 0111 0401 0117 0002 0112",
  "0002 0113 0411 0008 0111 0004 0112 0001 0115 0002 01115 0521 1002 1101 0002 0401 0111 0401 0001",
  "0116 0004 0112 0002 01116 0001 0117 0001 0112 0001 0112 0001 0112 0002 0111 0001 0115 0004 0112",
  "0002 0113 0003 0511 0007 0114 0001 0111 0007 011F 0511 1101 000A 0113 0001 0117 0401 0111 0001",
  "0113 0001 01116 0001 0117 0001 0112 0001 0115 0002 011A 0001 0113 0001 0113 0002 0111 000F 0111",
  "0403 0002 011A 0611 0401 0007 0801 1006 0001 0113 0001 0118 0002 0112 0002 01116 0001 0117 0001",
  "0112 0001 0401 0114 0002 0118 0511 0002 0112 0002 0113 0007 1301 0112 0004 0112 0001 0113 0512",
  "0002 011B 0401 0606 000A 0112 0001 0116 0003 0113 0001 0114 0003 0112 0001 0111 0001 0112 0003",
  "0112 0003 0113 0003 0118 0411 0113 0004 0115 0003 0113 0001 0114 0002 0511 0006 0111 000E 0411",
  "011C 0408 0005 0701 0113 1101 0118 0001 0113 0001 01117 0001 011A 0701 0115 0002 1401 0511 0117",
  "0001 0113 0001 0114 0007 0112 0001 0512 0801 0002 1401 0002 0112 0512 0002 011A 0007 1201 0518",
  "0901 0701 0112 1101 0118 0001 0113 0001 01117 0001 011A 0001 0115 0002 0402 0117 0001 0113 0001",
  "0114 0007 0112 0006 1401 0111 0001 0112 0502 0002 011A 0001 0502 1501 000C 1001 0701 0112 1301",
  "0118 0001 0113 0001 01117 0601 01110 0601 1002 0511 0116 0511 0001 0113 0001 0114 0601 0901",
  "0004 0903 0111 0907 0801 0112 0512 0002 011A 0516 0903 0517 0001 1301 0302 0001 03012 0003",
  "03018 0001 0309 0001 0301 0002 0307 0003 0301 0004 0306 0001 0301 0001 0308 0006 070A 0002 0303",
  "000C 0113A 0004 0111D 00025 0112 0001 0111 0001 1201 0112 1201 0111 0001 1201 0111 1206 0114",
  "1201 0117 1201 0113 0001 0111 0001 0111 1202 0112 1201 011D 1201 0113 0002 0115 0001 0111 0001",
  "0116 1501 0001 011A 0002 0112 0612 00020 02048 0001 02021 0301 0512 0004 0201B 0604 0206 0301",
  "0201 0001 02015 0303 0207 0301 0201 0303 0001 030F 0001 0511 0301 0412 0513 0524 0602 00025",
  "03022 0511 0305 0511 0302 0511 0307 0513 0304 0516 0301A 05140 0524 0512 01126 0001 0611 0005",
  "0611 0002 01127 0322 0412 0111 0411 0613 0115A 0525 01144 0525 01152 0526 0307 0411 0303F 0411",
  "0301 0001 0304 0002 0307 0001 0301 0001 0304 0002 03027 0411 0301 0001 0304 0002 0301F 0411",
  "0301 0001 0304 0002 0307 0001 0301 0001 0304 0002 0307 0411 0307 0001 03017 0411 0301F 0411",
  "0301 0001 0304 0002 0307 0411 03027 0411 03013 0002 0602 0412 0301C 0003 0411A 0006 03055 0801",
  "0002 0806 0002 0521 030276 0529 0301D 0003 03051 0708 0007 032D 1401 0327 1401 0009 1401 03217",
  "0009 03214 000C 032D 0001 0323 0001 0322 000C 0305D 0401 0002 030A 0006 040A 0006 030F 1401",
  "030A 0006 03058 1101 0007 0302A 0511 0005 05246 000A 0401D 0702 0001 040C 0004 040C 0004 0401",
  "0003 0402A 0002 0405 000B 0412A 0522 0004 0411A 0006 041A 0521 0003 0412 04020 0411C 0002 0412",
  "0523F 0001 0521D 0002 052B 0006 052A 0006 052E 0002 070F 1302 140E 00031 0504C 1401 0001 1602",
  "0502D 1402 1601 0512B 0613 051C 0616 06034 0008 0604 05138 0003 051F 0003 05133 0909 1602 0005",
  "1102B 0002 1103 0618 0008 05223 0614 1001 0702 1201 0005 0406C 04158 0507 0511C 070F 1004 1401",
  "0901 0601 0521 0502 0119B 0201 0514 0115A 0516 01116 0002 0116 0002 01126 0002 0116 0002 0118",
  "0001 0111 0001 0111 0001 0111 0001 0111F 0002 01135 0001 011F 0001 011E 0002 0116 0001 01113",
  "0002 0113 0001 0119 0001 0112F 0301 01117 0321 0306 0325 0402 0412 0321 0417 0325 0511 0001",
  "0634 0117 0321 0002 0111B 0001 0415 0608 0003 011B 0201 0211 0303 0322 0414 0523 0601 0621 0703",
  "0801 1001 1401 000F 01112 0302 0327 0411 0504 0511 000F 01139 0302 0401 0411 032F 0411 0502",
  "0511 0523 01130 0301 0501 0514 0521 0802 0004 0115B 0309 032C 011F2 032E 0111 0301 01179 0301",
  "0321 0301E 03234 0402 041B 050C 0521 060B 0707 0904 1001 01125 0302 1603 00016 011B 00015 0118B",
  "03214 0401 01196 032A 01150 0308 0328 01114 0402 0322 0411 0301 01156 0302 032C 0412 032A 0408",
  "041B 0511 0522 0402 04110 0501 051A 0523 0514 052A 0601 05213 0601 0521 0604 05218 0701 0114",
  "0601 0114 0602 0111C 0601 01123 0601 0111 0601 0114 0603 0111 0521 0117 0602 0117 032E 0111F",
  "0603 01118 0601 011E 0601 0417 0504 0611 0511 0611 0602 0321C 0514 03210 030100 032200 040E",
  "0416 0507 0515 0504 05129 0703 0515 0525 0701A 0002 07020 0001 1301 07022 1103 070C 1201 0708",
  "1001 11019 0804 110F 1201 0412F 1401 0412F 1401 050D 0513 0521 0513 0504 0516 0522 0416B 0527",
  "0612 0005 0412D 0001 0611 0005 0611 0002 04136 0612 0007 0411 0601 000E 0601 04117 0009 0417",
  "0001 0417 0001 0417 0001 0417 0001 0417 0001 0417 0001 0417 0001 0417 0001 05120 04118 0514",
  "0412 05113 0521 061A 0707 0902 1005 1105 1201 1303 140B 00022 0301A 0001 03059 000C 030D6 0001A",
  "030C 1514 01138 0303 0323 0301 0111 0001 01154 0322 0002 0116 0322 0115E 0321 0005 01128 0511",
  "1001 1101 0001 0115E 0001 01110 03018 0603 1305 04110 05114 1602 0009 1511 03210 0111D 0402",
  "0001 01124 052C 0401 032F 0111C 0402 0411 01132 032F 011C 0404 0112F 1211 01177 0404 01163 0402",
  "0111F 0401 03019B6 130A 04040 01151A6 04116 0518 0528 0611 0809 10015 1105 130D 1403 03048D",
  "0003 03012 0322 03010 0321 030C 0321 0303 0321 0301 0009 05230 05112C 00014 05120 0602 05112",
  "0618 0511C 0706 0801 0611 05258 0008 04117 0504 0515 0502 0516B 0602 0801 0602 0612 070C 060A",
  "0611 0703 0901 1101 0702 0806 1102 1206 1402 1205 1304 1603 0002 1402 0001 1401 0001 1405 1603",
  "00015 1403 1302 0701 0612 0601 0515 0412C 1301 0003 052A 0006 05038 0008 05145 0901 0008 051C",
  "0006 0521C 0802 1102 05154 000B 0511 0521D 0003 0524E 0001 052B 0004 0522 0701F 0001 05137 0009",
  "051E 0002 051A 0002 0514 0521C 0704 05243 00018 0525 06117 000A 0606 0002 0606 0002 0606 0009",
  "0607 0001 0607 0001 07030 0804 0702 1202 1304 0004 08050 0522E 0002 052A 0006 0202BA4 000C",
  "05217 0004 05231 0004 020800 0111A2E 0612 0323B 0523 0002 0416A 00026 0117 000C 0115 0005 0301",
  "01119 0001 0115 0001 0111 0001 0112 0001 0112 0001 0116C 06010 1401 00010 01116D 14010 01140",
  "0002 01136 0007 1401 03120 011C 0321 0401 1402 03210 041A 0006 0114 0513 0707 0802 01115 0322",
  "0402 011A 0001 01113 0001 0114 0004 0113 0321 0111 0001 01187 0002 0111 0001 0115E 0322 0115E",
  "0003 0116 0002 0116 0002 0116 0002 0113 0003 0117 0001 0117 000A 0303 0211 0113 040C 0001 0401A",
  "0001 04013 0001 0402 0001 040F 0002 040E 00022 0407B 0005 0403 0004 0402D 0003 0409 0414B 0702",
  "0902 0001 051C 1301 0003 0701 0002F 0512E 00082 0511D 0003 05131 000F 0701C 0004 0311F 0701",
  "0314 0009 1003 0311B 0005 0702B 0005 0401E 0001 0401 04124 0004 041E 0002A 03126 0402 03126",
  "04050 0002 040A 0006 09024 0004 09024 0004 07028 0008 07034 000B 0701 140B 0001 140F 0001 1407",
  "0001 1402 0001 140B 0001 140F 0001 1407 0001 1402 0003 16034 000C 070137 0009 07016 000A 0708",
  "00018 1406 0001 1402A 0001 1409 00045 0406 0002 0401 0001 0402C 0001 0402 0003 0401 0002 0401",
  "05216 0001 0529 0703F 0008 0709 00030 08013 0001 0802 0005 0805 0501A 0522 0003 0501 0511A 0005",
  "0511 00040 06138 0004 0802 0612 08010 0002 0802E 0414 0001 0412 0005 0418 0001 0413 0001 0411B",
  "1102 0002 0413 0004 0419 1101 0007 0419 0007 05220 07020 00020 07027 0004 070C 0009 05236 0003",
  "0521D 0002 0521B 0005 0528 07012 0007 0704 000C 0707 00050 05249 00037 08033 000D 08033 0007",
  "0806 11028 0008 110A 0006 16026 0003 1601D 0008 1602 000D0 0521F 0001 1302A 0001 1303 0002 1302",
  "00010 1603 00037 1601 1503 11028 0008 1102A 00016 1401A 00026 1301C 00014 12017 0009 0604E 0004",
  "0601E 1406 0009 0701 05242 1401 000A 1101 0002 06119 0007 061A 0006 06135 0001 061E 1103 1301",
  "0008 07027 0009 06149 0804 0701 1302 061A 0701 0805 0001 07014 000B 07012 0001 0702B 0901 1503",
  "0003E 0807 0001 0801 0001 0804 0001 080F 0001 080B 0006 0703B 0005 070A 0006 0801 0703 0001",
  "0708 0002 0702 0002 07016 0001 0707 0001 0702 0001 0705 0001 1101 0709 0002 0702 0002 0703 0002",
  "0801 0006 0701 0005 0707 0002 0707 0003 0705 000B 160A 0001 1601 0002 1601 0001 16026 0001 160A",
  "0001 1601 0002 1601 0001 1604 0001 160A 0001 1602 0008 1602 0001D 0905A 1301 0901 0001 0901",
  "1101 1201 1302 0001E 07048 0008 070A 000A6 07036 0002 07012 08014 00022 07045 000B 070A 0006",
  "090D 00013 06138 1201 1401 0006 061A 0006 16014 0001C 0801A 1101 0002 080F 0004 08010 1407",
  "000B9 1103C 00064 07053 000C 0701 1307 0002 1301 0002 1308 0001 1302 0001 1301E 0001 1302 0002",
  "130C 0009 130A 00046 1208 0002 1202E 0002 120B 0001B 10048 0008 10034 1202 10017 1101 1005 000D",
  "14010 07039 0007 150A 000B6 16022 000E 160A 0006 0909 0001 0902D 0001 090E 000A 0901D 0003",
  "09020 0002 09016 0001 090E 00049 1007 0001 1002 0001 1002C 0003 1001 0001 1002 0001 1009 0008",
  "100A 0006 1106 0001 1102 0001 11025 0001 1102 0001 1106 0007 110A 000136 11019 0007 15011 0001",
  "15029 0003 1501C 1601 00055 1301 000F 12032 000D 1201 05036F 0702A 0801 00066 05063 070C 0001",
  "0504 0701 000B 080C4 000A4C 14063 000D 05242F 1501 1209 1501D 000A 160F9B 0005 080247 0001AB9",
  "1603A 0006C6 060239 0007 0701F 0001 070A 0004 0702 1404F 0001 140A 0006 0701E 0002 0706 000A",
  "07046 000A 070A 0001 0707 0001 07015 0005 07013 0001B0 1603A 000C6 1105B 00065 06145 1206 0004",
  "1201 0612F 1209 0007 06111 00040 0901 1001 1202 1301 000B 1302 000E 09017ED 1105 1206 0008",
  "0902F3 1301E3 00029 1601 1309 00022E7 1404 0001 1407 0001 1402 0001 0602 10011D 1404 000F 1501",
  "0001D 1203 0002 1501 000E 1204 0008 10018C 000904 0706B 0005 070D 0003 0709 0007 070A 0002 0708",
  "000F5C 160FA 0006 1601B4 0004C 1402E 0002 14017 0009 14074 0003C 031F6 000A 03127 0002 0511",
  "031B4 080B 1402 00015 04146 0007A 15014 000C 11014 000C 04057 0009 05012 1107 00087 03155 0001",
  "03147 0001 0312 0002 0311 0002 0312 0002 0314 0001 031C 0001 0311 0001 0314 0401 0312 0001",
  "03141 0001 0314 0002 0318 0001 0317 0001 0311C 0001 0314 0001 0315 0001 0311 0003 0317 0001",
  "031152 0412 0002 031122 0502 0002 03132 08028C 000F 0805 0001 080F 000450 1401F 0006 1506 000D5",
  "0907 0001 09011 0002 0907 0001 0902 0001 0905 0005 1503E 00021 1501 00070 1202D 0003 120E 0002",
  "120A 0004 1202 000140 1401F 00011 1203A 0005 1201 0001D0 1502A 000D6 1602B 0004 1601 0001E0",
  "1407 0001 1404 0001 1402 0001 140F 0001 070C5 0002 07010 00029 0904B 1201 0004 090A 0004 0902",
  "000311 11044 0004C 1203D 000C2 0614 0001 0611B 0001 0612 0001 0611 0002 0611 0001 061A 0001",
  "0614 0001 0611 0001 0611 0006 0611 0004 0611 0001 0611 0001 0611 0001 0613 0001 0612 0001 0611",
  "0002 0611 0001 0611 0001 0611 0001 0611 0001 0611 0001 0612 0001 0611 0002 0614 0001 0617 0001",
  "0614 0001 0614 0001 0611 0001 061A 0001 06111 0005 0613 0001 0615 0001 06111 00034 0612 00010E",
  "0512C 0004 05164 000C 060F 0002 060E 0701 0001 060F 0001 060F 07016 000A 052B 0702 1303 0521F",
  "1101 0601 0521 060B 0521 0601 0521 0602 0521 0603 0521 0603 0525 0608 0521 0607 0521 060A 0612",
  "1201 1303 0609 0521 0601 0522 0602 0521 060A 0524 0602 0521 060A 09012 1301 00038 0601A 0521",
  "0602 000D 05222 0609 0901 0004 0529 0007 0602 000E 1006 0009A 06021 070C 0803 0606 0701 06046",
  "0701 0802 06014 070C 06025 0701 0605 0704 0805 070C 06011 0707 0808 0603F 0701 0601 0701 060B6",
  "0701 0604 0702 0801 0603E 0702 0614 0707 0805 06018 07012 0901 07029 0901 07056 0605 0611 06010",
  "0611 0603 0611 0601 0611 0601 0611 0601 0611 0603 0611 0606 0612 0604 0611 0601 0612 0604 0611",
  "060C 0702 0802 060B 07030 06046 070A 0801 0902 1002 1201 1302 0004 1501 1403 070D 0003 0704",
  "0903 1002 1101 1201 1302 0003 06074 1503 0004 1505 07055 1104 1501 0006 120C 0004 1401 000F",
  "070C 0004 07038 0008 070A 0006 07028 0008 0701E 0002 1302 160A 0004 1602 0003E 100C 1301 1203",
  "0809 0906 1001 0908 1008 0901 1002 090C 1201 090C 1001 1103 090F 100D 1105 1201 1301 1104 1302",
  "1401 1101 1201 1104 0805 090D 1006 110B 1302 1206 1303 1202 110A 1206 0801 1102 1208 1301 1401",
  "1203 10017 11019 12054 000C 110E 0002 1204 1301 1503 1203 1402 0003 1203 1304 1502 1601 0005",
  "1601 1206 13013 1404 1503 1307 1404 1503 1601 1501 1303 1403 1601 0007 1502 1307 1403 1502 1601",
  "0002 1601 1408 1501 1601 0006 1407 1502 0007 13093 0001 13037 16025 130A 000404 0202 031A6D7",
  "1307 1402 00020 0521035 1404 1501 0006 060DE 0002 0801682 000E 1001D31 000F 15126E 0009A2",
  "03121E 0005E0 0202 130134B 0005 1501060 000DC4E 0202 000FFFE 0202 000FFFE 0202 000FFFE 0202",
  "000FFFE 0202 000FFFE 0202 000FFFE 0202 000FFFE 0202 000FFFE 0202 000FFFE 0202 000FFFE 0202 0001",
  "0311 0001E 03160 00080 040F0 000FE0E 02020002"]

/-- The table of versions. -/
def ageRuns : Array (Run String) := readRuns 3 ageLines

/-- The version that assigned a character, if one did. -/
def age? (c : Char) : Option Nat := do
  let version ← (← labelOf? ageRuns c).toNat?
  if version = 0 then none else some version

/-- The versions that assigned characters. -/
def ages : List Nat := [
  11, 20, 21, 30, 31, 32, 40, 41, 50, 51, 52, 60, 61, 62, 63, 70, 80, 90, 100, 110, 120, 121, 130, 140,
  150, 151, 160]

end FormModel.Unicode

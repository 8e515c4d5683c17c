import KeyApproval.Text.CodeTable

/-!
# Mapping of domain names

What a character of a domain name stands for: letters in lower case, compatibility forms by their plain
spelling, and some characters that count for nothing.
-/

namespace KeyApproval.Domain

/-- Entries have a first and a last code point, a step, and an image. With step zero every code point of
the entry has this image, a dotted list of code points that may be empty. Otherwise every code point
whose distance from the first is a multiple of the step has the image at the same distance from the one
given. The data is the compatibility mapping of
internationalized domain names for Unicode 17. -/
def mappingLines : List String :=
  ["41-5A-1-61 A0-A0-0-20 A8-A8-0-20.308 AA-AA-0-61 AD-AD-0- AF-AF-0-20.304 B2-B3-1-32",
   "B4-B4-0-20.301 B5-B5-0-3BC B8-B8-0-20.327 B9-B9-0-31 BA-BA-0-6F BC-BC-0-31.2044.34",
   "BD-BD-0-31.2044.32 BE-BE-0-33.2044.34 C0-D6-1-E0 D8-DE-1-F8 100-12E-2-101 130-130-0-69.307",
   "132-133-0-69.6A 134-136-2-135 139-13D-2-13A 13F-140-0-6C.B7 141-147-2-142 149-149-0-2BC.6E",
   "14A-176-2-14B 178-178-0-FF 179-17D-2-17A 17F-17F-0-73 181-181-0-253 182-184-2-183",
   "186-186-0-254 187-187-0-188 189-18A-1-256 18B-18B-0-18C 18E-18E-0-1DD 18F-18F-0-259",
   "190-190-0-25B 191-191-0-192 193-193-0-260 194-194-0-263 196-196-0-269 197-197-0-268",
   "198-198-0-199 19C-19C-0-26F 19D-19D-0-272 19F-19F-0-275 1A0-1A4-2-1A1 1A6-1A6-0-280",
   "1A7-1A7-0-1A8 1A9-1A9-0-283 1AC-1AC-0-1AD 1AE-1AE-0-288 1AF-1AF-0-1B0 1B1-1B2-1-28A",
   "1B3-1B5-2-1B4 1B7-1B7-0-292 1B8-1B8-0-1B9 1BC-1BC-0-1BD 1C4-1C6-0-64.17E 1C7-1C9-0-6C.6A",
   "1CA-1CC-0-6E.6A 1CD-1DB-2-1CE 1DE-1EE-2-1DF 1F1-1F3-0-64.7A 1F4-1F4-0-1F5 1F6-1F6-0-195",
   "1F7-1F7-0-1BF 1F8-21E-2-1F9 220-220-0-19E 222-232-2-223 23A-23A-0-2C65 23B-23B-0-23C",
   "23D-23D-0-19A 23E-23E-0-2C66 241-241-0-242 243-243-0-180 244-244-0-289 245-245-0-28C",
   "246-24E-2-247 2B0-2B0-0-68 2B1-2B1-0-266 2B2-2B2-0-6A 2B3-2B3-0-72 2B4-2B4-0-279 2B5-2B5-0-27B",
   "2B6-2B6-0-281 2B7-2B7-0-77 2B8-2B8-0-79 2D8-2D8-0-20.306 2D9-2D9-0-20.307 2DA-2DA-0-20.30A",
   "2DB-2DB-0-20.328 2DC-2DC-0-20.303 2DD-2DD-0-20.30B 2E0-2E0-0-263 2E1-2E1-0-6C 2E2-2E2-0-73",
   "2E3-2E3-0-78 2E4-2E4-0-295 340-341-1-300 343-343-0-313 344-344-0-308.301 345-345-0-3B9",
   "34F-34F-0- 370-372-2-371 374-374-0-2B9 376-376-0-377 37A-37A-0-20.3B9 37E-37E-0-3B",
   "37F-37F-0-3F3 384-384-0-20.301 385-385-0-20.308.301 386-386-0-3AC 387-387-0-B7 388-38A-1-3AD",
   "38C-38C-0-3CC 38E-38F-1-3CD 391-3A1-1-3B1 3A3-3AB-1-3C3 3CF-3CF-0-3D7 3D0-3D0-0-3B2",
   "3D1-3D1-0-3B8 3D2-3D2-0-3C5 3D3-3D3-0-3CD 3D4-3D4-0-3CB 3D5-3D5-0-3C6 3D6-3D6-0-3C0",
   "3D8-3EE-2-3D9 3F0-3F0-0-3BA 3F1-3F1-0-3C1 3F2-3F2-0-3C3 3F4-3F4-0-3B8 3F5-3F5-0-3B5",
   "3F7-3F7-0-3F8 3F9-3F9-0-3C3 3FA-3FA-0-3FB 3FD-3FF-1-37B 400-40F-1-450 410-42F-1-430",
   "460-480-2-461 48A-4BE-2-48B 4C0-4C0-0-4CF 4C1-4CD-2-4C2 4D0-52E-2-4D1 531-556-1-561",
   "587-587-0-565.582 675-675-0-627.674 676-676-0-648.674 677-677-0-6C7.674 678-678-0-64A.674",
   "958-958-0-915.93C 959-959-0-916.93C 95A-95A-0-917.93C 95B-95B-0-91C.93C 95C-95C-0-921.93C",
   "95D-95D-0-922.93C 95E-95E-0-92B.93C 95F-95F-0-92F.93C 9DC-9DC-0-9A1.9BC 9DD-9DD-0-9A2.9BC",
   "9DF-9DF-0-9AF.9BC A33-A33-0-A32.A3C A36-A36-0-A38.A3C A59-A59-0-A16.A3C A5A-A5A-0-A17.A3C",
   "A5B-A5B-0-A1C.A3C A5E-A5E-0-A2B.A3C B5C-B5C-0-B21.B3C B5D-B5D-0-B22.B3C E33-E33-0-E4D.E32",
   "EB3-EB3-0-ECD.EB2 EDC-EDC-0-EAB.E99 EDD-EDD-0-EAB.EA1 F0C-F0C-0-F0B F43-F43-0-F42.FB7",
   "F4D-F4D-0-F4C.FB7 F52-F52-0-F51.FB7 F57-F57-0-F56.FB7 F5C-F5C-0-F5B.FB7 F69-F69-0-F40.FB5",
   "F73-F73-0-F71.F72 F75-F75-0-F71.F74 F76-F76-0-FB2.F80 F77-F77-0-FB2.F71.F80 F78-F78-0-FB3.F80",
   "F79-F79-0-FB3.F71.F80 F81-F81-0-F71.F80 F93-F93-0-F92.FB7 F9D-F9D-0-F9C.FB7 FA2-FA2-0-FA1.FB7",
   "FA7-FA7-0-FA6.FB7 FAC-FAC-0-FAB.FB7 FB9-FB9-0-F90.FB5 10A0-10C5-1-2D00 10C7-10C7-0-2D27",
   "10CD-10CD-0-2D2D 10FC-10FC-0-10DC 115F-1160-0- 13F8-13FD-1-13F0 17B4-17B5-0- 180B-180F-0-",
   "1C80-1C80-0-432 1C81-1C81-0-434 1C82-1C82-0-43E 1C83-1C84-1-441 1C85-1C85-0-442",
   "1C86-1C86-0-44A 1C87-1C87-0-463 1C88-1C88-0-A64B 1C89-1C89-0-1C8A 1C90-1CBA-1-10D0",
   "1CBD-1CBF-1-10FD 1D2C-1D2C-0-61 1D2D-1D2D-0-E6 1D2E-1D30-2-62 1D31-1D31-0-65 1D32-1D32-0-1DD",
   "1D33-1D3A-1-67 1D3C-1D3C-0-6F 1D3D-1D3D-0-223 1D3E-1D3E-0-70 1D3F-1D3F-0-72 1D40-1D41-1-74",
   "1D42-1D42-0-77 1D43-1D43-0-61 1D44-1D45-1-250 1D46-1D46-0-1D02 1D47-1D47-0-62 1D48-1D49-1-64",
   "1D4A-1D4A-0-259 1D4B-1D4C-1-25B 1D4D-1D4D-0-67 1D4F-1D4F-0-6B 1D50-1D50-0-6D 1D51-1D51-0-14B",
   "1D52-1D52-0-6F 1D53-1D53-0-254 1D54-1D55-1-1D16 1D56-1D56-0-70 1D57-1D58-1-74 1D59-1D59-0-1D1D",
   "1D5A-1D5A-0-26F 1D5B-1D5B-0-76 1D5C-1D5C-0-1D25 1D5D-1D5F-1-3B2 1D60-1D61-1-3C6 1D62-1D62-0-69",
   "1D63-1D63-0-72 1D64-1D65-1-75 1D66-1D67-1-3B2 1D68-1D68-0-3C1 1D69-1D6A-1-3C6 1D78-1D78-0-43D",
   "1D9B-1D9B-0-252 1D9C-1D9C-0-63 1D9D-1D9D-0-255 1D9E-1D9E-0-F0 1D9F-1D9F-0-25C 1DA0-1DA0-0-66",
   "1DA1-1DA1-0-25F 1DA2-1DA2-0-261 1DA3-1DA3-0-265 1DA4-1DA6-1-268 1DA7-1DA7-0-1D7B",
   "1DA8-1DA8-0-29D 1DA9-1DA9-0-26D 1DAA-1DAA-0-1D85 1DAB-1DAB-0-29F 1DAC-1DAC-0-271",
   "1DAD-1DAD-0-270 1DAE-1DB1-1-272 1DB2-1DB2-0-278 1DB3-1DB4-1-282 1DB5-1DB5-0-1AB",
   "1DB6-1DB7-1-289 1DB8-1DB8-0-1D1C 1DB9-1DBA-1-28B 1DBB-1DBB-0-7A 1DBC-1DBE-1-290",
   "1DBF-1DBF-0-3B8 1E00-1E94-2-1E01 1E9A-1E9A-0-61.2BE 1E9B-1E9B-0-1E61 1E9E-1E9E-0-DF",
   "1EA0-1EFE-2-1EA1 1F08-1F0F-1-1F00 1F18-1F1D-1-1F10 1F28-1F2F-1-1F20 1F38-1F3F-1-1F30",
   "1F48-1F4D-1-1F40 1F59-1F5F-2-1F51 1F68-1F6F-1-1F60 1F71-1F71-0-3AC 1F73-1F73-0-3AD",
   "1F75-1F75-0-3AE 1F77-1F77-0-3AF 1F79-1F79-0-3CC 1F7B-1F7B-0-3CD 1F7D-1F7D-0-3CE",
   "1F80-1F80-0-1F00.3B9 1F81-1F81-0-1F01.3B9 1F82-1F82-0-1F02.3B9 1F83-1F83-0-1F03.3B9",
   "1F84-1F84-0-1F04.3B9 1F85-1F85-0-1F05.3B9 1F86-1F86-0-1F06.3B9 1F87-1F87-0-1F07.3B9",
   "1F88-1F88-0-1F00.3B9 1F89-1F89-0-1F01.3B9 1F8A-1F8A-0-1F02.3B9 1F8B-1F8B-0-1F03.3B9",
   "1F8C-1F8C-0-1F04.3B9 1F8D-1F8D-0-1F05.3B9 1F8E-1F8E-0-1F06.3B9 1F8F-1F8F-0-1F07.3B9",
   "1F90-1F90-0-1F20.3B9 1F91-1F91-0-1F21.3B9 1F92-1F92-0-1F22.3B9 1F93-1F93-0-1F23.3B9",
   "1F94-1F94-0-1F24.3B9 1F95-1F95-0-1F25.3B9 1F96-1F96-0-1F26.3B9 1F97-1F97-0-1F27.3B9",
   "1F98-1F98-0-1F20.3B9 1F99-1F99-0-1F21.3B9 1F9A-1F9A-0-1F22.3B9 1F9B-1F9B-0-1F23.3B9",
   "1F9C-1F9C-0-1F24.3B9 1F9D-1F9D-0-1F25.3B9 1F9E-1F9E-0-1F26.3B9 1F9F-1F9F-0-1F27.3B9",
   "1FA0-1FA0-0-1F60.3B9 1FA1-1FA1-0-1F61.3B9 1FA2-1FA2-0-1F62.3B9 1FA3-1FA3-0-1F63.3B9",
   "1FA4-1FA4-0-1F64.3B9 1FA5-1FA5-0-1F65.3B9 1FA6-1FA6-0-1F66.3B9 1FA7-1FA7-0-1F67.3B9",
   "1FA8-1FA8-0-1F60.3B9 1FA9-1FA9-0-1F61.3B9 1FAA-1FAA-0-1F62.3B9 1FAB-1FAB-0-1F63.3B9",
   "1FAC-1FAC-0-1F64.3B9 1FAD-1FAD-0-1F65.3B9 1FAE-1FAE-0-1F66.3B9 1FAF-1FAF-0-1F67.3B9",
   "1FB2-1FB2-0-1F70.3B9 1FB3-1FB3-0-3B1.3B9 1FB4-1FB4-0-3AC.3B9 1FB7-1FB7-0-1FB6.3B9",
   "1FB8-1FB9-1-1FB0 1FBA-1FBA-0-1F70 1FBB-1FBB-0-3AC 1FBC-1FBC-0-3B1.3B9 1FBD-1FBD-0-20.313",
   "1FBE-1FBE-0-3B9 1FBF-1FBF-0-20.313 1FC0-1FC0-0-20.342 1FC1-1FC1-0-20.308.342",
   "1FC2-1FC2-0-1F74.3B9 1FC3-1FC3-0-3B7.3B9 1FC4-1FC4-0-3AE.3B9 1FC7-1FC7-0-1FC6.3B9",
   "1FC8-1FC8-0-1F72 1FC9-1FC9-0-3AD 1FCA-1FCA-0-1F74 1FCB-1FCB-0-3AE 1FCC-1FCC-0-3B7.3B9",
   "1FCD-1FCD-0-20.313.300 1FCE-1FCE-0-20.313.301 1FCF-1FCF-0-20.313.342 1FD3-1FD3-0-390",
   "1FD8-1FD9-1-1FD0 1FDA-1FDA-0-1F76 1FDB-1FDB-0-3AF 1FDD-1FDD-0-20.314.300",
   "1FDE-1FDE-0-20.314.301 1FDF-1FDF-0-20.314.342 1FE3-1FE3-0-3B0 1FE8-1FE9-1-1FE0",
   "1FEA-1FEA-0-1F7A 1FEB-1FEB-0-3CD 1FEC-1FEC-0-1FE5 1FED-1FED-0-20.308.300",
   "1FEE-1FEE-0-20.308.301 1FEF-1FEF-0-60 1FF2-1FF2-0-1F7C.3B9 1FF3-1FF3-0-3C9.3B9",
   "1FF4-1FF4-0-3CE.3B9 1FF7-1FF7-0-1FF6.3B9 1FF8-1FF8-0-1F78 1FF9-1FF9-0-3CC 1FFA-1FFA-0-1F7C",
   "1FFB-1FFB-0-3CE 1FFC-1FFC-0-3C9.3B9 1FFD-1FFD-0-20.301 1FFE-1FFE-0-20.314 2000-200A-0-20",
   "200B-200B-0- 2011-2011-0-2010 2017-2017-0-20.333 202F-202F-0-20 2033-2033-0-2032.2032",
   "2034-2034-0-2032.2032.2032 2036-2036-0-2035.2035 2037-2037-0-2035.2035.2035 203C-203C-0-21.21",
   "203E-203E-0-20.305 2047-2047-0-3F.3F 2048-2048-0-3F.21 2049-2049-0-21.3F",
   "2057-2057-0-2032.2032.2032.2032 205F-205F-0-20 2060-2064-0- 206A-206F-0- 2070-2070-0-30",
   "2071-2071-0-69 2074-2079-1-34 207A-207A-0-2B 207B-207B-0-2212 207C-207C-0-3D 207D-207E-1-28",
   "207F-207F-0-6E 2080-2089-1-30 208A-208A-0-2B 208B-208B-0-2212 208C-208C-0-3D 208D-208E-1-28",
   "2090-2090-0-61 2091-2091-0-65 2092-2092-0-6F 2093-2093-0-78 2094-2094-0-259 2095-2095-0-68",
   "2096-2099-1-6B 209A-209A-0-70 209B-209C-1-73 20A8-20A8-0-72.73 2100-2100-0-61.2F.63",
   "2101-2101-0-61.2F.73 2102-2102-0-63 2103-2103-0-B0.63 2105-2105-0-63.2F.6F",
   "2106-2106-0-63.2F.75 2107-2107-0-25B 2109-2109-0-B0.66 210A-210B-1-67 210C-210E-0-68",
   "210F-210F-0-127 2110-2111-0-69 2112-2113-0-6C 2115-2115-0-6E 2116-2116-0-6E.6F 2119-211B-1-70",
   "211C-211D-0-72 2120-2120-0-73.6D 2121-2121-0-74.65.6C 2122-2122-0-74.6D 2124-2124-0-7A",
   "2126-2126-0-3C9 2128-2128-0-7A 212A-212A-0-6B 212B-212B-0-E5 212C-212D-1-62 212F-2130-0-65",
   "2131-2131-0-66 2132-2132-0-214E 2133-2133-0-6D 2134-2134-0-6F 2135-2138-1-5D0 2139-2139-0-69",
   "213B-213B-0-66.61.78 213C-213C-0-3C0 213D-213E-0-3B3 213F-213F-0-3C0 2140-2140-0-2211",
   "2145-2146-0-64 2147-2147-0-65 2148-2149-1-69 2150-2150-0-31.2044.37 2151-2151-0-31.2044.39",
   "2152-2152-0-31.2044.31.30 2153-2153-0-31.2044.33 2154-2154-0-32.2044.33 2155-2155-0-31.2044.35",
   "2156-2156-0-32.2044.35 2157-2157-0-33.2044.35 2158-2158-0-34.2044.35 2159-2159-0-31.2044.36",
   "215A-215A-0-35.2044.36 215B-215B-0-31.2044.38 215C-215C-0-33.2044.38 215D-215D-0-35.2044.38",
   "215E-215E-0-37.2044.38 215F-215F-0-31.2044 2160-2160-0-69 2161-2161-0-69.69",
   "2162-2162-0-69.69.69 2163-2163-0-69.76 2164-2164-0-76 2165-2165-0-76.69 2166-2166-0-76.69.69",
   "2167-2167-0-76.69.69.69 2168-2168-0-69.78 2169-2169-0-78 216A-216A-0-78.69",
   "216B-216B-0-78.69.69 216C-216C-0-6C 216D-216E-1-63 216F-216F-0-6D 2170-2170-0-69",
   "2171-2171-0-69.69 2172-2172-0-69.69.69 2173-2173-0-69.76 2174-2174-0-76 2175-2175-0-76.69",
   "2176-2176-0-76.69.69 2177-2177-0-76.69.69.69 2178-2178-0-69.78 2179-2179-0-78",
   "217A-217A-0-78.69 217B-217B-0-78.69.69 217C-217C-0-6C 217D-217E-1-63 217F-217F-0-6D",
   "2183-2183-0-2184 2189-2189-0-30.2044.33 222C-222C-0-222B.222B 222D-222D-0-222B.222B.222B",
   "222F-222F-0-222E.222E 2230-2230-0-222E.222E.222E 2329-232A-1-3008 2460-2468-1-31",
   "2469-2469-0-31.30 246A-246A-0-31.31 246B-246B-0-31.32 246C-246C-0-31.33 246D-246D-0-31.34",
   "246E-246E-0-31.35 246F-246F-0-31.36 2470-2470-0-31.37 2471-2471-0-31.38 2472-2472-0-31.39",
   "2473-2473-0-32.30 2474-2474-0-28.31.29 2475-2475-0-28.32.29 2476-2476-0-28.33.29",
   "2477-2477-0-28.34.29 2478-2478-0-28.35.29 2479-2479-0-28.36.29 247A-247A-0-28.37.29",
   "247B-247B-0-28.38.29 247C-247C-0-28.39.29 247D-247D-0-28.31.30.29 247E-247E-0-28.31.31.29",
   "247F-247F-0-28.31.32.29 2480-2480-0-28.31.33.29 2481-2481-0-28.31.34.29",
   "2482-2482-0-28.31.35.29 2483-2483-0-28.31.36.29 2484-2484-0-28.31.37.29",
   "2485-2485-0-28.31.38.29 2486-2486-0-28.31.39.29 2487-2487-0-28.32.30.29 249C-249C-0-28.61.29",
   "249D-249D-0-28.62.29 249E-249E-0-28.63.29 249F-249F-0-28.64.29 24A0-24A0-0-28.65.29",
   "24A1-24A1-0-28.66.29 24A2-24A2-0-28.67.29 24A3-24A3-0-28.68.29 24A4-24A4-0-28.69.29",
   "24A5-24A5-0-28.6A.29 24A6-24A6-0-28.6B.29 24A7-24A7-0-28.6C.29 24A8-24A8-0-28.6D.29",
   "24A9-24A9-0-28.6E.29 24AA-24AA-0-28.6F.29 24AB-24AB-0-28.70.29 24AC-24AC-0-28.71.29",
   "24AD-24AD-0-28.72.29 24AE-24AE-0-28.73.29 24AF-24AF-0-28.74.29 24B0-24B0-0-28.75.29",
   "24B1-24B1-0-28.76.29 24B2-24B2-0-28.77.29 24B3-24B3-0-28.78.29 24B4-24B4-0-28.79.29",
   "24B5-24B5-0-28.7A.29 24B6-24CF-1-61 24D0-24E9-1-61 24EA-24EA-0-30",
   "2A0C-2A0C-0-222B.222B.222B.222B 2A74-2A74-0-3A.3A.3D 2A75-2A75-0-3D.3D 2A76-2A76-0-3D.3D.3D",
   "2ADC-2ADC-0-2ADD.338 2C00-2C2F-1-2C30 2C60-2C60-0-2C61 2C62-2C62-0-26B 2C63-2C63-0-1D7D",
   "2C64-2C64-0-27D 2C67-2C6B-2-2C68 2C6D-2C6D-0-251 2C6E-2C6E-0-271 2C6F-2C6F-0-250",
   "2C70-2C70-0-252 2C72-2C72-0-2C73 2C75-2C75-0-2C76 2C7C-2C7C-0-6A 2C7D-2C7D-0-76",
   "2C7E-2C7F-1-23F 2C80-2CE2-2-2C81 2CEB-2CED-2-2CEC 2CF2-2CF2-0-2CF3 2D6F-2D6F-0-2D61",
   "2E9F-2E9F-0-6BCD 2EF3-2EF3-0-9F9F 2F00-2F00-0-4E00 2F01-2F01-0-4E28 2F02-2F02-0-4E36",
   "2F03-2F03-0-4E3F 2F04-2F04-0-4E59 2F05-2F05-0-4E85 2F06-2F06-0-4E8C 2F07-2F07-0-4EA0",
   "2F08-2F08-0-4EBA 2F09-2F09-0-513F 2F0A-2F0A-0-5165 2F0B-2F0B-0-516B 2F0C-2F0C-0-5182",
   "2F0D-2F0D-0-5196 2F0E-2F0E-0-51AB 2F0F-2F0F-0-51E0 2F10-2F10-0-51F5 2F11-2F11-0-5200",
   "2F12-2F12-0-529B 2F13-2F13-0-52F9 2F14-2F14-0-5315 2F15-2F15-0-531A 2F16-2F16-0-5338",
   "2F17-2F17-0-5341 2F18-2F18-0-535C 2F19-2F19-0-5369 2F1A-2F1A-0-5382 2F1B-2F1B-0-53B6",
   "2F1C-2F1C-0-53C8 2F1D-2F1D-0-53E3 2F1E-2F1E-0-56D7 2F1F-2F1F-0-571F 2F20-2F20-0-58EB",
   "2F21-2F21-0-5902 2F22-2F22-0-590A 2F23-2F23-0-5915 2F24-2F24-0-5927 2F25-2F25-0-5973",
   "2F26-2F26-0-5B50 2F27-2F27-0-5B80 2F28-2F28-0-5BF8 2F29-2F29-0-5C0F 2F2A-2F2A-0-5C22",
   "2F2B-2F2B-0-5C38 2F2C-2F2C-0-5C6E 2F2D-2F2D-0-5C71 2F2E-2F2E-0-5DDB 2F2F-2F2F-0-5DE5",
   "2F30-2F30-0-5DF1 2F31-2F31-0-5DFE 2F32-2F32-0-5E72 2F33-2F33-0-5E7A 2F34-2F34-0-5E7F",
   "2F35-2F35-0-5EF4 2F36-2F36-0-5EFE 2F37-2F37-0-5F0B 2F38-2F38-0-5F13 2F39-2F39-0-5F50",
   "2F3A-2F3A-0-5F61 2F3B-2F3B-0-5F73 2F3C-2F3C-0-5FC3 2F3D-2F3D-0-6208 2F3E-2F3E-0-6236",
   "2F3F-2F3F-0-624B 2F40-2F40-0-652F 2F41-2F41-0-6534 2F42-2F42-0-6587 2F43-2F43-0-6597",
   "2F44-2F44-0-65A4 2F45-2F45-0-65B9 2F46-2F46-0-65E0 2F47-2F47-0-65E5 2F48-2F48-0-66F0",
   "2F49-2F49-0-6708 2F4A-2F4A-0-6728 2F4B-2F4B-0-6B20 2F4C-2F4C-0-6B62 2F4D-2F4D-0-6B79",
   "2F4E-2F4E-0-6BB3 2F4F-2F4F-0-6BCB 2F50-2F50-0-6BD4 2F51-2F51-0-6BDB 2F52-2F52-0-6C0F",
   "2F53-2F53-0-6C14 2F54-2F54-0-6C34 2F55-2F55-0-706B 2F56-2F56-0-722A 2F57-2F57-0-7236",
   "2F58-2F58-0-723B 2F59-2F59-0-723F 2F5A-2F5A-0-7247 2F5B-2F5B-0-7259 2F5C-2F5C-0-725B",
   "2F5D-2F5D-0-72AC 2F5E-2F5E-0-7384 2F5F-2F5F-0-7389 2F60-2F60-0-74DC 2F61-2F61-0-74E6",
   "2F62-2F62-0-7518 2F63-2F63-0-751F 2F64-2F64-0-7528 2F65-2F65-0-7530 2F66-2F66-0-758B",
   "2F67-2F67-0-7592 2F68-2F68-0-7676 2F69-2F69-0-767D 2F6A-2F6A-0-76AE 2F6B-2F6B-0-76BF",
   "2F6C-2F6C-0-76EE 2F6D-2F6D-0-77DB 2F6E-2F6E-0-77E2 2F6F-2F6F-0-77F3 2F70-2F70-0-793A",
   "2F71-2F71-0-79B8 2F72-2F72-0-79BE 2F73-2F73-0-7A74 2F74-2F74-0-7ACB 2F75-2F75-0-7AF9",
   "2F76-2F76-0-7C73 2F77-2F77-0-7CF8 2F78-2F78-0-7F36 2F79-2F79-0-7F51 2F7A-2F7A-0-7F8A",
   "2F7B-2F7B-0-7FBD 2F7C-2F7C-0-8001 2F7D-2F7D-0-800C 2F7E-2F7E-0-8012 2F7F-2F7F-0-8033",
   "2F80-2F80-0-807F 2F81-2F81-0-8089 2F82-2F82-0-81E3 2F83-2F83-0-81EA 2F84-2F84-0-81F3",
   "2F85-2F85-0-81FC 2F86-2F86-0-820C 2F87-2F87-0-821B 2F88-2F88-0-821F 2F89-2F89-0-826E",
   "2F8A-2F8A-0-8272 2F8B-2F8B-0-8278 2F8C-2F8C-0-864D 2F8D-2F8D-0-866B 2F8E-2F8E-0-8840",
   "2F8F-2F8F-0-884C 2F90-2F90-0-8863 2F91-2F91-0-897E 2F92-2F92-0-898B 2F93-2F93-0-89D2",
   "2F94-2F94-0-8A00 2F95-2F95-0-8C37 2F96-2F96-0-8C46 2F97-2F97-0-8C55 2F98-2F98-0-8C78",
   "2F99-2F99-0-8C9D 2F9A-2F9A-0-8D64 2F9B-2F9B-0-8D70 2F9C-2F9C-0-8DB3 2F9D-2F9D-0-8EAB",
   "2F9E-2F9E-0-8ECA 2F9F-2F9F-0-8F9B 2FA0-2FA0-0-8FB0 2FA1-2FA1-0-8FB5 2FA2-2FA2-0-9091",
   "2FA3-2FA3-0-9149 2FA4-2FA4-0-91C6 2FA5-2FA5-0-91CC 2FA6-2FA6-0-91D1 2FA7-2FA7-0-9577",
   "2FA8-2FA8-0-9580 2FA9-2FA9-0-961C 2FAA-2FAA-0-96B6 2FAB-2FAB-0-96B9 2FAC-2FAC-0-96E8",
   "2FAD-2FAD-0-9751 2FAE-2FAE-0-975E 2FAF-2FAF-0-9762 2FB0-2FB0-0-9769 2FB1-2FB1-0-97CB",
   "2FB2-2FB2-0-97ED 2FB3-2FB3-0-97F3 2FB4-2FB4-0-9801 2FB5-2FB5-0-98A8 2FB6-2FB6-0-98DB",
   "2FB7-2FB7-0-98DF 2FB8-2FB8-0-9996 2FB9-2FB9-0-9999 2FBA-2FBA-0-99AC 2FBB-2FBB-0-9AA8",
   "2FBC-2FBC-0-9AD8 2FBD-2FBD-0-9ADF 2FBE-2FBE-0-9B25 2FBF-2FBF-0-9B2F 2FC0-2FC0-0-9B32",
   "2FC1-2FC1-0-9B3C 2FC2-2FC2-0-9B5A 2FC3-2FC3-0-9CE5 2FC4-2FC4-0-9E75 2FC5-2FC5-0-9E7F",
   "2FC6-2FC6-0-9EA5 2FC7-2FC7-0-9EBB 2FC8-2FC8-0-9EC3 2FC9-2FC9-0-9ECD 2FCA-2FCA-0-9ED1",
   "2FCB-2FCB-0-9EF9 2FCC-2FCC-0-9EFD 2FCD-2FCD-0-9F0E 2FCE-2FCE-0-9F13 2FCF-2FCF-0-9F20",
   "2FD0-2FD0-0-9F3B 2FD1-2FD1-0-9F4A 2FD2-2FD2-0-9F52 2FD3-2FD3-0-9F8D 2FD4-2FD4-0-9F9C",
   "2FD5-2FD5-0-9FA0 3000-3000-0-20 3002-3002-0-2E 3036-3036-0-3012 3038-3038-0-5341",
   "3039-303A-1-5344 309B-309B-0-20.3099 309C-309C-0-20.309A 309F-309F-0-3088.308A",
   "30FF-30FF-0-30B3.30C8 3131-3132-1-1100 3133-3133-0-11AA 3134-3134-0-1102 3135-3136-1-11AC",
   "3137-3139-1-1103 313A-313F-1-11B0 3140-3140-0-111A 3141-3143-1-1106 3144-3144-0-1121",
   "3145-314E-1-1109 314F-3163-1-1161 3164-3164-0- 3165-3166-1-1114 3167-3168-1-11C7",
   "3169-3169-0-11CC 316A-316A-0-11CE 316B-316B-0-11D3 316C-316C-0-11D7 316D-316D-0-11D9",
   "316E-316E-0-111C 316F-316F-0-11DD 3170-3170-0-11DF 3171-3172-1-111D 3173-3173-0-1120",
   "3174-3175-1-1122 3176-3176-0-1127 3177-3177-0-1129 3178-317C-1-112B 317D-317D-0-1132",
   "317E-317E-0-1136 317F-317F-0-1140 3180-3180-0-1147 3181-3181-0-114C 3182-3183-1-11F1",
   "3184-3186-1-1157 3187-3188-1-1184 3189-3189-0-1188 318A-318B-1-1191 318C-318C-0-1194",
   "318D-318D-0-119E 318E-318E-0-11A1 3192-3192-0-4E00 3193-3193-0-4E8C 3194-3194-0-4E09",
   "3195-3195-0-56DB 3196-3196-0-4E0A 3197-3197-0-4E2D 3198-3198-0-4E0B 3199-3199-0-7532",
   "319A-319A-0-4E59 319B-319B-0-4E19 319C-319C-0-4E01 319D-319D-0-5929 319E-319E-0-5730",
   "319F-319F-0-4EBA 3200-3200-0-28.1100.29 3201-3201-0-28.1102.29 3202-3202-0-28.1103.29",
   "3203-3203-0-28.1105.29 3204-3204-0-28.1106.29 3205-3205-0-28.1107.29 3206-3206-0-28.1109.29",
   "3207-3207-0-28.110B.29 3208-3208-0-28.110C.29 3209-3209-0-28.110E.29 320A-320A-0-28.110F.29",
   "320B-320B-0-28.1110.29 320C-320C-0-28.1111.29 320D-320D-0-28.1112.29 320E-320E-0-28.AC00.29",
   "320F-320F-0-28.B098.29 3210-3210-0-28.B2E4.29 3211-3211-0-28.B77C.29 3212-3212-0-28.B9C8.29",
   "3213-3213-0-28.BC14.29 3214-3214-0-28.C0AC.29 3215-3215-0-28.C544.29 3216-3216-0-28.C790.29",
   "3217-3217-0-28.CC28.29 3218-3218-0-28.CE74.29 3219-3219-0-28.D0C0.29 321A-321A-0-28.D30C.29",
   "321B-321B-0-28.D558.29 321C-321C-0-28.C8FC.29 321D-321D-0-28.C624.C804.29",
   "321E-321E-0-28.C624.D6C4.29 3220-3220-0-28.4E00.29 3221-3221-0-28.4E8C.29",
   "3222-3222-0-28.4E09.29 3223-3223-0-28.56DB.29 3224-3224-0-28.4E94.29 3225-3225-0-28.516D.29",
   "3226-3226-0-28.4E03.29 3227-3227-0-28.516B.29 3228-3228-0-28.4E5D.29 3229-3229-0-28.5341.29",
   "322A-322A-0-28.6708.29 322B-322B-0-28.706B.29 322C-322C-0-28.6C34.29 322D-322D-0-28.6728.29",
   "322E-322E-0-28.91D1.29 322F-322F-0-28.571F.29 3230-3230-0-28.65E5.29 3231-3231-0-28.682A.29",
   "3232-3232-0-28.6709.29 3233-3233-0-28.793E.29 3234-3234-0-28.540D.29 3235-3235-0-28.7279.29",
   "3236-3236-0-28.8CA1.29 3237-3237-0-28.795D.29 3238-3238-0-28.52B4.29 3239-3239-0-28.4EE3.29",
   "323A-323A-0-28.547C.29 323B-323B-0-28.5B66.29 323C-323C-0-28.76E3.29 323D-323D-0-28.4F01.29",
   "323E-323E-0-28.8CC7.29 323F-323F-0-28.5354.29 3240-3240-0-28.796D.29 3241-3241-0-28.4F11.29",
   "3242-3242-0-28.81EA.29 3243-3243-0-28.81F3.29 3244-3244-0-554F 3245-3245-0-5E7C",
   "3246-3246-0-6587 3247-3247-0-7B8F 3250-3250-0-70.74.65 3251-3251-0-32.31 3252-3252-0-32.32",
   "3253-3253-0-32.33 3254-3254-0-32.34 3255-3255-0-32.35 3256-3256-0-32.36 3257-3257-0-32.37",
   "3258-3258-0-32.38 3259-3259-0-32.39 325A-325A-0-33.30 325B-325B-0-33.31 325C-325C-0-33.32",
   "325D-325D-0-33.33 325E-325E-0-33.34 325F-325F-0-33.35 3260-3260-0-1100 3261-3262-1-1102",
   "3263-3265-1-1105 3266-3266-0-1109 3267-3268-1-110B 3269-326D-1-110E 326E-326E-0-AC00",
   "326F-326F-0-B098 3270-3270-0-B2E4 3271-3271-0-B77C 3272-3272-0-B9C8 3273-3273-0-BC14",
   "3274-3274-0-C0AC 3275-3275-0-C544 3276-3276-0-C790 3277-3277-0-CC28 3278-3278-0-CE74",
   "3279-3279-0-D0C0 327A-327A-0-D30C 327B-327B-0-D558 327C-327C-0-CC38.ACE0 327D-327D-0-C8FC.C758",
   "327E-327E-0-C6B0 3280-3280-0-4E00 3281-3281-0-4E8C 3282-3282-0-4E09 3283-3283-0-56DB",
   "3284-3284-0-4E94 3285-3285-0-516D 3286-3286-0-4E03 3287-3287-0-516B 3288-3288-0-4E5D",
   "3289-3289-0-5341 328A-328A-0-6708 328B-328B-0-706B 328C-328C-0-6C34 328D-328D-0-6728",
   "328E-328E-0-91D1 328F-328F-0-571F 3290-3290-0-65E5 3291-3291-0-682A 3292-3292-0-6709",
   "3293-3293-0-793E 3294-3294-0-540D 3295-3295-0-7279 3296-3296-0-8CA1 3297-3297-0-795D",
   "3298-3298-0-52B4 3299-3299-0-79D8 329A-329A-0-7537 329B-329B-0-5973 329C-329C-0-9069",
   "329D-329D-0-512A 329E-329E-0-5370 329F-329F-0-6CE8 32A0-32A0-0-9805 32A1-32A1-0-4F11",
   "32A2-32A2-0-5199 32A3-32A3-0-6B63 32A4-32A4-0-4E0A 32A5-32A5-0-4E2D 32A6-32A6-0-4E0B",
   "32A7-32A7-0-5DE6 32A8-32A8-0-53F3 32A9-32A9-0-533B 32AA-32AA-0-5B97 32AB-32AB-0-5B66",
   "32AC-32AC-0-76E3 32AD-32AD-0-4F01 32AE-32AE-0-8CC7 32AF-32AF-0-5354 32B0-32B0-0-591C",
   "32B1-32B1-0-33.36 32B2-32B2-0-33.37 32B3-32B3-0-33.38 32B4-32B4-0-33.39 32B5-32B5-0-34.30",
   "32B6-32B6-0-34.31 32B7-32B7-0-34.32 32B8-32B8-0-34.33 32B9-32B9-0-34.34 32BA-32BA-0-34.35",
   "32BB-32BB-0-34.36 32BC-32BC-0-34.37 32BD-32BD-0-34.38 32BE-32BE-0-34.39 32BF-32BF-0-35.30",
   "32C0-32C0-0-31.6708 32C1-32C1-0-32.6708 32C2-32C2-0-33.6708 32C3-32C3-0-34.6708",
   "32C4-32C4-0-35.6708 32C5-32C5-0-36.6708 32C6-32C6-0-37.6708 32C7-32C7-0-38.6708",
   "32C8-32C8-0-39.6708 32C9-32C9-0-31.30.6708 32CA-32CA-0-31.31.6708 32CB-32CB-0-31.32.6708",
   "32CC-32CC-0-68.67 32CD-32CD-0-65.72.67 32CE-32CE-0-65.76 32CF-32CF-0-6C.74.64 32D0-32D0-0-30A2",
   "32D1-32D1-0-30A4 32D2-32D2-0-30A6 32D3-32D3-0-30A8 32D4-32D5-1-30AA 32D6-32D6-0-30AD",
   "32D7-32D7-0-30AF 32D8-32D8-0-30B1 32D9-32D9-0-30B3 32DA-32DA-0-30B5 32DB-32DB-0-30B7",
   "32DC-32DC-0-30B9 32DD-32DD-0-30BB 32DE-32DE-0-30BD 32DF-32DF-0-30BF 32E0-32E0-0-30C1",
   "32E1-32E1-0-30C4 32E2-32E2-0-30C6 32E3-32E3-0-30C8 32E4-32E9-1-30CA 32EA-32EA-0-30D2",
   "32EB-32EB-0-30D5 32EC-32EC-0-30D8 32ED-32ED-0-30DB 32EE-32F2-1-30DE 32F3-32F3-0-30E4",
   "32F4-32F4-0-30E6 32F5-32FA-1-30E8 32FB-32FE-1-30EF 32FF-32FF-0-4EE4.548C",
   "3300-3300-0-30A2.30D1.30FC.30C8 3301-3301-0-30A2.30EB.30D5.30A1",
   "3302-3302-0-30A2.30F3.30DA.30A2 3303-3303-0-30A2.30FC.30EB 3304-3304-0-30A4.30CB.30F3.30B0",
   "3305-3305-0-30A4.30F3.30C1 3306-3306-0-30A6.30A9.30F3 3307-3307-0-30A8.30B9.30AF.30FC.30C9",
   "3308-3308-0-30A8.30FC.30AB.30FC 3309-3309-0-30AA.30F3.30B9 330A-330A-0-30AA.30FC.30E0",
   "330B-330B-0-30AB.30A4.30EA 330C-330C-0-30AB.30E9.30C3.30C8 330D-330D-0-30AB.30ED.30EA.30FC",
   "330E-330E-0-30AC.30ED.30F3 330F-330F-0-30AC.30F3.30DE 3310-3310-0-30AE.30AC",
   "3311-3311-0-30AE.30CB.30FC 3312-3312-0-30AD.30E5.30EA.30FC 3313-3313-0-30AE.30EB.30C0.30FC",
   "3314-3314-0-30AD.30ED 3315-3315-0-30AD.30ED.30B0.30E9.30E0",
   "3316-3316-0-30AD.30ED.30E1.30FC.30C8.30EB 3317-3317-0-30AD.30ED.30EF.30C3.30C8",
   "3318-3318-0-30B0.30E9.30E0 3319-3319-0-30B0.30E9.30E0.30C8.30F3",
   "331A-331A-0-30AF.30EB.30BC.30A4.30ED 331B-331B-0-30AF.30ED.30FC.30CD",
   "331C-331C-0-30B1.30FC.30B9 331D-331D-0-30B3.30EB.30CA 331E-331E-0-30B3.30FC.30DD",
   "331F-331F-0-30B5.30A4.30AF.30EB 3320-3320-0-30B5.30F3.30C1.30FC.30E0",
   "3321-3321-0-30B7.30EA.30F3.30B0 3322-3322-0-30BB.30F3.30C1 3323-3323-0-30BB.30F3.30C8",
   "3324-3324-0-30C0.30FC.30B9 3325-3325-0-30C7.30B7 3326-3326-0-30C9.30EB 3327-3327-0-30C8.30F3",
   "3328-3328-0-30CA.30CE 3329-3329-0-30CE.30C3.30C8 332A-332A-0-30CF.30A4.30C4",
   "332B-332B-0-30D1.30FC.30BB.30F3.30C8 332C-332C-0-30D1.30FC.30C4",
   "332D-332D-0-30D0.30FC.30EC.30EB 332E-332E-0-30D4.30A2.30B9.30C8.30EB",
   "332F-332F-0-30D4.30AF.30EB 3330-3330-0-30D4.30B3 3331-3331-0-30D3.30EB",
   "3332-3332-0-30D5.30A1.30E9.30C3.30C9 3333-3333-0-30D5.30A3.30FC.30C8",
   "3334-3334-0-30D6.30C3.30B7.30A7.30EB 3335-3335-0-30D5.30E9.30F3",
   "3336-3336-0-30D8.30AF.30BF.30FC.30EB 3337-3337-0-30DA.30BD 3338-3338-0-30DA.30CB.30D2",
   "3339-3339-0-30D8.30EB.30C4 333A-333A-0-30DA.30F3.30B9 333B-333B-0-30DA.30FC.30B8",
   "333C-333C-0-30D9.30FC.30BF 333D-333D-0-30DD.30A4.30F3.30C8 333E-333E-0-30DC.30EB.30C8",
   "333F-333F-0-30DB.30F3 3340-3340-0-30DD.30F3.30C9 3341-3341-0-30DB.30FC.30EB",
   "3342-3342-0-30DB.30FC.30F3 3343-3343-0-30DE.30A4.30AF.30ED 3344-3344-0-30DE.30A4.30EB",
   "3345-3345-0-30DE.30C3.30CF 3346-3346-0-30DE.30EB.30AF 3347-3347-0-30DE.30F3.30B7.30E7.30F3",
   "3348-3348-0-30DF.30AF.30ED.30F3 3349-3349-0-30DF.30EA 334A-334A-0-30DF.30EA.30D0.30FC.30EB",
   "334B-334B-0-30E1.30AC 334C-334C-0-30E1.30AC.30C8.30F3 334D-334D-0-30E1.30FC.30C8.30EB",
   "334E-334E-0-30E4.30FC.30C9 334F-334F-0-30E4.30FC.30EB 3350-3350-0-30E6.30A2.30F3",
   "3351-3351-0-30EA.30C3.30C8.30EB 3352-3352-0-30EA.30E9 3353-3353-0-30EB.30D4.30FC",
   "3354-3354-0-30EB.30FC.30D6.30EB 3355-3355-0-30EC.30E0 3356-3356-0-30EC.30F3.30C8.30B2.30F3",
   "3357-3357-0-30EF.30C3.30C8 3358-3358-0-30.70B9 3359-3359-0-31.70B9 335A-335A-0-32.70B9",
   "335B-335B-0-33.70B9 335C-335C-0-34.70B9 335D-335D-0-35.70B9 335E-335E-0-36.70B9",
   "335F-335F-0-37.70B9 3360-3360-0-38.70B9 3361-3361-0-39.70B9 3362-3362-0-31.30.70B9",
   "3363-3363-0-31.31.70B9 3364-3364-0-31.32.70B9 3365-3365-0-31.33.70B9 3366-3366-0-31.34.70B9",
   "3367-3367-0-31.35.70B9 3368-3368-0-31.36.70B9 3369-3369-0-31.37.70B9 336A-336A-0-31.38.70B9",
   "336B-336B-0-31.39.70B9 336C-336C-0-32.30.70B9 336D-336D-0-32.31.70B9 336E-336E-0-32.32.70B9",
   "336F-336F-0-32.33.70B9 3370-3370-0-32.34.70B9 3371-3371-0-68.70.61 3372-3372-0-64.61",
   "3373-3373-0-61.75 3374-3374-0-62.61.72 3375-3375-0-6F.76 3376-3376-0-70.63 3377-3377-0-64.6D",
   "3378-3378-0-64.6D.32 3379-3379-0-64.6D.33 337A-337A-0-69.75 337B-337B-0-5E73.6210",
   "337C-337C-0-662D.548C 337D-337D-0-5927.6B63 337E-337E-0-660E.6CBB",
   "337F-337F-0-682A.5F0F.4F1A.793E 3380-3380-0-70.61 3381-3381-0-6E.61 3382-3382-0-3BC.61",
   "3383-3383-0-6D.61 3384-3384-0-6B.61 3385-3385-0-6B.62 3386-3386-0-6D.62 3387-3387-0-67.62",
   "3388-3388-0-63.61.6C 3389-3389-0-6B.63.61.6C 338A-338A-0-70.66 338B-338B-0-6E.66",
   "338C-338C-0-3BC.66 338D-338D-0-3BC.67 338E-338E-0-6D.67 338F-338F-0-6B.67 3390-3390-0-68.7A",
   "3391-3391-0-6B.68.7A 3392-3392-0-6D.68.7A 3393-3393-0-67.68.7A 3394-3394-0-74.68.7A",
   "3395-3395-0-3BC.6C 3396-3396-0-6D.6C 3397-3397-0-64.6C 3398-3398-0-6B.6C 3399-3399-0-66.6D",
   "339A-339A-0-6E.6D 339B-339B-0-3BC.6D 339C-339C-0-6D.6D 339D-339D-0-63.6D 339E-339E-0-6B.6D",
   "339F-339F-0-6D.6D.32 33A0-33A0-0-63.6D.32 33A1-33A1-0-6D.32 33A2-33A2-0-6B.6D.32",
   "33A3-33A3-0-6D.6D.33 33A4-33A4-0-63.6D.33 33A5-33A5-0-6D.33 33A6-33A6-0-6B.6D.33",
   "33A7-33A7-0-6D.2215.73 33A8-33A8-0-6D.2215.73.32 33A9-33A9-0-70.61 33AA-33AA-0-6B.70.61",
   "33AB-33AB-0-6D.70.61 33AC-33AC-0-67.70.61 33AD-33AD-0-72.61.64 33AE-33AE-0-72.61.64.2215.73",
   "33AF-33AF-0-72.61.64.2215.73.32 33B0-33B0-0-70.73 33B1-33B1-0-6E.73 33B2-33B2-0-3BC.73",
   "33B3-33B3-0-6D.73 33B4-33B4-0-70.76 33B5-33B5-0-6E.76 33B6-33B6-0-3BC.76 33B7-33B7-0-6D.76",
   "33B8-33B8-0-6B.76 33B9-33B9-0-6D.76 33BA-33BA-0-70.77 33BB-33BB-0-6E.77 33BC-33BC-0-3BC.77",
   "33BD-33BD-0-6D.77 33BE-33BE-0-6B.77 33BF-33BF-0-6D.77 33C0-33C0-0-6B.3C9 33C1-33C1-0-6D.3C9",
   "33C3-33C3-0-62.71 33C4-33C4-0-63.63 33C5-33C5-0-63.64 33C6-33C6-0-63.2215.6B.67",
   "33C8-33C8-0-64.62 33C9-33C9-0-67.79 33CA-33CA-0-68.61 33CB-33CB-0-68.70 33CC-33CC-0-69.6E",
   "33CD-33CD-0-6B.6B 33CE-33CE-0-6B.6D 33CF-33CF-0-6B.74 33D0-33D0-0-6C.6D 33D1-33D1-0-6C.6E",
   "33D2-33D2-0-6C.6F.67 33D3-33D3-0-6C.78 33D4-33D4-0-6D.62 33D5-33D5-0-6D.69.6C",
   "33D6-33D6-0-6D.6F.6C 33D7-33D7-0-70.68 33D9-33D9-0-70.70.6D 33DA-33DA-0-70.72",
   "33DB-33DB-0-73.72 33DC-33DC-0-73.76 33DD-33DD-0-77.62 33DE-33DE-0-76.2215.6D",
   "33DF-33DF-0-61.2215.6D 33E0-33E0-0-31.65E5 33E1-33E1-0-32.65E5 33E2-33E2-0-33.65E5",
   "33E3-33E3-0-34.65E5 33E4-33E4-0-35.65E5 33E5-33E5-0-36.65E5 33E6-33E6-0-37.65E5",
   "33E7-33E7-0-38.65E5 33E8-33E8-0-39.65E5 33E9-33E9-0-31.30.65E5 33EA-33EA-0-31.31.65E5",
   "33EB-33EB-0-31.32.65E5 33EC-33EC-0-31.33.65E5 33ED-33ED-0-31.34.65E5 33EE-33EE-0-31.35.65E5",
   "33EF-33EF-0-31.36.65E5 33F0-33F0-0-31.37.65E5 33F1-33F1-0-31.38.65E5 33F2-33F2-0-31.39.65E5",
   "33F3-33F3-0-32.30.65E5 33F4-33F4-0-32.31.65E5 33F5-33F5-0-32.32.65E5 33F6-33F6-0-32.33.65E5",
   "33F7-33F7-0-32.34.65E5 33F8-33F8-0-32.35.65E5 33F9-33F9-0-32.36.65E5 33FA-33FA-0-32.37.65E5",
   "33FB-33FB-0-32.38.65E5 33FC-33FC-0-32.39.65E5 33FD-33FD-0-33.30.65E5 33FE-33FE-0-33.31.65E5",
   "33FF-33FF-0-67.61.6C A640-A66C-2-A641 A680-A69A-2-A681 A69C-A69C-0-44A A69D-A69D-0-44C",
   "A722-A72E-2-A723 A732-A76E-2-A733 A770-A770-0-A76F A779-A77B-2-A77A A77D-A77D-0-1D79",
   "A77E-A786-2-A77F A78B-A78B-0-A78C A78D-A78D-0-265 A790-A792-2-A791 A796-A7A8-2-A797",
   "A7AA-A7AA-0-266 A7AB-A7AB-0-25C A7AC-A7AC-0-261 A7AD-A7AD-0-26C A7AE-A7AE-0-26A",
   "A7B0-A7B0-0-29E A7B1-A7B1-0-287 A7B2-A7B2-0-29D A7B3-A7B3-0-AB53 A7B4-A7C2-2-A7B5",
   "A7C4-A7C4-0-A794 A7C5-A7C5-0-282 A7C6-A7C6-0-1D8E A7C7-A7C9-2-A7C8 A7CB-A7CB-0-264",
   "A7CC-A7DA-2-A7CD A7DC-A7DC-0-19B A7F1-A7F1-0-73 A7F2-A7F2-0-63 A7F3-A7F3-0-66 A7F4-A7F4-0-71",
   "A7F5-A7F5-0-A7F6 A7F8-A7F8-0-127 A7F9-A7F9-0-153 AB5C-AB5C-0-A727 AB5D-AB5D-0-AB37",
   "AB5E-AB5E-0-26B AB5F-AB5F-0-AB52 AB69-AB69-0-28D AB70-ABBF-1-13A0 F900-F900-0-8C48",
   "F901-F901-0-66F4 F902-F902-0-8ECA F903-F903-0-8CC8 F904-F904-0-6ED1 F905-F905-0-4E32",
   "F906-F906-0-53E5 F907-F908-0-9F9C F909-F909-0-5951 F90A-F90A-0-91D1 F90B-F90B-0-5587",
   "F90C-F90C-0-5948 F90D-F90D-0-61F6 F90E-F90E-0-7669 F90F-F90F-0-7F85 F910-F910-0-863F",
   "F911-F911-0-87BA F912-F912-0-88F8 F913-F913-0-908F F914-F914-0-6A02 F915-F915-0-6D1B",
   "F916-F916-0-70D9 F917-F917-0-73DE F918-F918-0-843D F919-F919-0-916A F91A-F91A-0-99F1",
   "F91B-F91B-0-4E82 F91C-F91C-0-5375 F91D-F91D-0-6B04 F91E-F91E-0-721B F91F-F91F-0-862D",
   "F920-F920-0-9E1E F921-F921-0-5D50 F922-F922-0-6FEB F923-F923-0-85CD F924-F924-0-8964",
   "F925-F925-0-62C9 F926-F926-0-81D8 F927-F927-0-881F F928-F928-0-5ECA F929-F929-0-6717",
   "F92A-F92A-0-6D6A F92B-F92B-0-72FC F92C-F92C-0-90CE F92D-F92D-0-4F86 F92E-F92E-0-51B7",
   "F92F-F92F-0-52DE F930-F930-0-64C4 F931-F931-0-6AD3 F932-F932-0-7210 F933-F933-0-76E7",
   "F934-F934-0-8001 F935-F935-0-8606 F936-F936-0-865C F937-F937-0-8DEF F938-F938-0-9732",
   "F939-F939-0-9B6F F93A-F93A-0-9DFA F93B-F93B-0-788C F93C-F93C-0-797F F93D-F93D-0-7DA0",
   "F93E-F93E-0-83C9 F93F-F93F-0-9304 F940-F940-0-9E7F F941-F941-0-8AD6 F942-F942-0-58DF",
   "F943-F943-0-5F04 F944-F944-0-7C60 F945-F945-0-807E F946-F946-0-7262 F947-F947-0-78CA",
   "F948-F948-0-8CC2 F949-F949-0-96F7 F94A-F94A-0-58D8 F94B-F94B-0-5C62 F94C-F94C-0-6A13",
   "F94D-F94D-0-6DDA F94E-F94E-0-6F0F F94F-F94F-0-7D2F F950-F950-0-7E37 F951-F951-0-964B",
   "F952-F952-0-52D2 F953-F953-0-808B F954-F954-0-51DC F955-F955-0-51CC F956-F956-0-7A1C",
   "F957-F957-0-7DBE F958-F958-0-83F1 F959-F959-0-9675 F95A-F95A-0-8B80 F95B-F95B-0-62CF",
   "F95C-F95C-0-6A02 F95D-F95D-0-8AFE F95E-F95E-0-4E39 F95F-F95F-0-5BE7 F960-F960-0-6012",
   "F961-F961-0-7387 F962-F962-0-7570 F963-F963-0-5317 F964-F964-0-78FB F965-F965-0-4FBF",
   "F966-F966-0-5FA9 F967-F967-0-4E0D F968-F968-0-6CCC F969-F969-0-6578 F96A-F96A-0-7D22",
   "F96B-F96B-0-53C3 F96C-F96C-0-585E F96D-F96D-0-7701 F96E-F96E-0-8449 F96F-F96F-0-8AAA",
   "F970-F970-0-6BBA F971-F971-0-8FB0 F972-F972-0-6C88 F973-F973-0-62FE F974-F974-0-82E5",
   "F975-F975-0-63A0 F976-F976-0-7565 F977-F977-0-4EAE F978-F978-0-5169 F979-F979-0-51C9",
   "F97A-F97A-0-6881 F97B-F97B-0-7CE7 F97C-F97C-0-826F F97D-F97D-0-8AD2 F97E-F97E-0-91CF",
   "F97F-F97F-0-52F5 F980-F980-0-5442 F981-F981-0-5973 F982-F982-0-5EEC F983-F983-0-65C5",
   "F984-F984-0-6FFE F985-F985-0-792A F986-F986-0-95AD F987-F987-0-9A6A F988-F988-0-9E97",
   "F989-F989-0-9ECE F98A-F98A-0-529B F98B-F98B-0-66C6 F98C-F98C-0-6B77 F98D-F98D-0-8F62",
   "F98E-F98E-0-5E74 F98F-F98F-0-6190 F990-F990-0-6200 F991-F991-0-649A F992-F992-0-6F23",
   "F993-F993-0-7149 F994-F994-0-7489 F995-F995-0-79CA F996-F996-0-7DF4 F997-F997-0-806F",
   "F998-F998-0-8F26 F999-F999-0-84EE F99A-F99A-0-9023 F99B-F99B-0-934A F99C-F99C-0-5217",
   "F99D-F99D-0-52A3 F99E-F99E-0-54BD F99F-F99F-0-70C8 F9A0-F9A0-0-88C2 F9A1-F9A1-0-8AAA",
   "F9A2-F9A2-0-5EC9 F9A3-F9A3-0-5FF5 F9A4-F9A4-0-637B F9A5-F9A5-0-6BAE F9A6-F9A6-0-7C3E",
   "F9A7-F9A7-0-7375 F9A8-F9A8-0-4EE4 F9A9-F9A9-0-56F9 F9AA-F9AA-0-5BE7 F9AB-F9AB-0-5DBA",
   "F9AC-F9AC-0-601C F9AD-F9AD-0-73B2 F9AE-F9AE-0-7469 F9AF-F9AF-0-7F9A F9B0-F9B0-0-8046",
   "F9B1-F9B1-0-9234 F9B2-F9B2-0-96F6 F9B3-F9B3-0-9748 F9B4-F9B4-0-9818 F9B5-F9B5-0-4F8B",
   "F9B6-F9B6-0-79AE F9B7-F9B7-0-91B4 F9B8-F9B8-0-96B8 F9B9-F9B9-0-60E1 F9BA-F9BA-0-4E86",
   "F9BB-F9BB-0-50DA F9BC-F9BC-0-5BEE F9BD-F9BD-0-5C3F F9BE-F9BE-0-6599 F9BF-F9BF-0-6A02",
   "F9C0-F9C0-0-71CE F9C1-F9C1-0-7642 F9C2-F9C2-0-84FC F9C3-F9C3-0-907C F9C4-F9C4-0-9F8D",
   "F9C5-F9C5-0-6688 F9C6-F9C6-0-962E F9C7-F9C7-0-5289 F9C8-F9C8-0-677B F9C9-F9C9-0-67F3",
   "F9CA-F9CA-0-6D41 F9CB-F9CB-0-6E9C F9CC-F9CC-0-7409 F9CD-F9CD-0-7559 F9CE-F9CE-0-786B",
   "F9CF-F9CF-0-7D10 F9D0-F9D0-0-985E F9D1-F9D1-0-516D F9D2-F9D2-0-622E F9D3-F9D3-0-9678",
   "F9D4-F9D4-0-502B F9D5-F9D5-0-5D19 F9D6-F9D6-0-6DEA F9D7-F9D7-0-8F2A F9D8-F9D8-0-5F8B",
   "F9D9-F9D9-0-6144 F9DA-F9DA-0-6817 F9DB-F9DB-0-7387 F9DC-F9DC-0-9686 F9DD-F9DD-0-5229",
   "F9DE-F9DE-0-540F F9DF-F9DF-0-5C65 F9E0-F9E0-0-6613 F9E1-F9E1-0-674E F9E2-F9E2-0-68A8",
   "F9E3-F9E3-0-6CE5 F9E4-F9E4-0-7406 F9E5-F9E5-0-75E2 F9E6-F9E6-0-7F79 F9E7-F9E7-0-88CF",
   "F9E8-F9E8-0-88E1 F9E9-F9E9-0-91CC F9EA-F9EA-0-96E2 F9EB-F9EB-0-533F F9EC-F9EC-0-6EBA",
   "F9ED-F9ED-0-541D F9EE-F9EE-0-71D0 F9EF-F9EF-0-7498 F9F0-F9F0-0-85FA F9F1-F9F1-0-96A3",
   "F9F2-F9F2-0-9C57 F9F3-F9F3-0-9E9F F9F4-F9F4-0-6797 F9F5-F9F5-0-6DCB F9F6-F9F6-0-81E8",
   "F9F7-F9F7-0-7ACB F9F8-F9F8-0-7B20 F9F9-F9F9-0-7C92 F9FA-F9FA-0-72C0 F9FB-F9FB-0-7099",
   "F9FC-F9FC-0-8B58 F9FD-F9FD-0-4EC0 F9FE-F9FE-0-8336 F9FF-F9FF-0-523A FA00-FA00-0-5207",
   "FA01-FA01-0-5EA6 FA02-FA02-0-62D3 FA03-FA03-0-7CD6 FA04-FA04-0-5B85 FA05-FA05-0-6D1E",
   "FA06-FA06-0-66B4 FA07-FA07-0-8F3B FA08-FA08-0-884C FA09-FA09-0-964D FA0A-FA0A-0-898B",
   "FA0B-FA0B-0-5ED3 FA0C-FA0C-0-5140 FA0D-FA0D-0-55C0 FA10-FA10-0-585A FA12-FA12-0-6674",
   "FA15-FA15-0-51DE FA16-FA16-0-732A FA17-FA17-0-76CA FA18-FA18-0-793C FA19-FA19-0-795E",
   "FA1A-FA1A-0-7965 FA1B-FA1B-0-798F FA1C-FA1C-0-9756 FA1D-FA1D-0-7CBE FA1E-FA1E-0-7FBD",
   "FA20-FA20-0-8612 FA22-FA22-0-8AF8 FA25-FA25-0-9038 FA26-FA26-0-90FD FA2A-FA2A-0-98EF",
   "FA2B-FA2B-0-98FC FA2C-FA2C-0-9928 FA2D-FA2D-0-9DB4 FA2E-FA2E-0-90DE FA2F-FA2F-0-96B7",
   "FA30-FA30-0-4FAE FA31-FA31-0-50E7 FA32-FA32-0-514D FA33-FA33-0-52C9 FA34-FA34-0-52E4",
   "FA35-FA35-0-5351 FA36-FA36-0-559D FA37-FA37-0-5606 FA38-FA38-0-5668 FA39-FA39-0-5840",
   "FA3A-FA3A-0-58A8 FA3B-FA3B-0-5C64 FA3C-FA3C-0-5C6E FA3D-FA3D-0-6094 FA3E-FA3E-0-6168",
   "FA3F-FA3F-0-618E FA40-FA40-0-61F2 FA41-FA41-0-654F FA42-FA42-0-65E2 FA43-FA43-0-6691",
   "FA44-FA44-0-6885 FA45-FA45-0-6D77 FA46-FA46-0-6E1A FA47-FA47-0-6F22 FA48-FA48-0-716E",
   "FA49-FA49-0-722B FA4A-FA4A-0-7422 FA4B-FA4B-0-7891 FA4C-FA4C-0-793E FA4D-FA4D-0-7949",
   "FA4E-FA4E-0-7948 FA4F-FA4F-0-7950 FA50-FA50-0-7956 FA51-FA51-0-795D FA52-FA53-1-798D",
   "FA54-FA54-0-7A40 FA55-FA55-0-7A81 FA56-FA56-0-7BC0 FA57-FA57-0-7DF4 FA58-FA58-0-7E09",
   "FA59-FA59-0-7E41 FA5A-FA5A-0-7F72 FA5B-FA5B-0-8005 FA5C-FA5C-0-81ED FA5D-FA5E-0-8279",
   "FA5F-FA5F-0-8457 FA60-FA60-0-8910 FA61-FA61-0-8996 FA62-FA62-0-8B01 FA63-FA63-0-8B39",
   "FA64-FA64-0-8CD3 FA65-FA65-0-8D08 FA66-FA66-0-8FB6 FA67-FA67-0-9038 FA68-FA68-0-96E3",
   "FA69-FA69-0-97FF FA6A-FA6A-0-983B FA6B-FA6B-0-6075 FA6C-FA6C-0-242EE FA6D-FA6D-0-8218",
   "FA70-FA70-0-4E26 FA71-FA71-0-51B5 FA72-FA72-0-5168 FA73-FA73-0-4F80 FA74-FA74-0-5145",
   "FA75-FA75-0-5180 FA76-FA76-0-52C7 FA77-FA77-0-52FA FA78-FA78-0-559D FA79-FA79-0-5555",
   "FA7A-FA7A-0-5599 FA7B-FA7B-0-55E2 FA7C-FA7C-0-585A FA7D-FA7D-0-58B3 FA7E-FA7E-0-5944",
   "FA7F-FA7F-0-5954 FA80-FA80-0-5A62 FA81-FA81-0-5B28 FA82-FA82-0-5ED2 FA83-FA83-0-5ED9",
   "FA84-FA84-0-5F69 FA85-FA85-0-5FAD FA86-FA86-0-60D8 FA87-FA87-0-614E FA88-FA88-0-6108",
   "FA89-FA89-0-618E FA8A-FA8A-0-6160 FA8B-FA8B-0-61F2 FA8C-FA8C-0-6234 FA8D-FA8D-0-63C4",
   "FA8E-FA8E-0-641C FA8F-FA8F-0-6452 FA90-FA90-0-6556 FA91-FA91-0-6674 FA92-FA92-0-6717",
   "FA93-FA93-0-671B FA94-FA94-0-6756 FA95-FA95-0-6B79 FA96-FA96-0-6BBA FA97-FA97-0-6D41",
   "FA98-FA98-0-6EDB FA99-FA99-0-6ECB FA9A-FA9A-0-6F22 FA9B-FA9B-0-701E FA9C-FA9C-0-716E",
   "FA9D-FA9D-0-77A7 FA9E-FA9E-0-7235 FA9F-FA9F-0-72AF FAA0-FAA0-0-732A FAA1-FAA1-0-7471",
   "FAA2-FAA2-0-7506 FAA3-FAA3-0-753B FAA4-FAA4-0-761D FAA5-FAA5-0-761F FAA6-FAA6-0-76CA",
   "FAA7-FAA7-0-76DB FAA8-FAA8-0-76F4 FAA9-FAA9-0-774A FAAA-FAAA-0-7740 FAAB-FAAB-0-78CC",
   "FAAC-FAAC-0-7AB1 FAAD-FAAD-0-7BC0 FAAE-FAAE-0-7C7B FAAF-FAAF-0-7D5B FAB0-FAB0-0-7DF4",
   "FAB1-FAB1-0-7F3E FAB2-FAB2-0-8005 FAB3-FAB3-0-8352 FAB4-FAB4-0-83EF FAB5-FAB5-0-8779",
   "FAB6-FAB6-0-8941 FAB7-FAB7-0-8986 FAB8-FAB8-0-8996 FAB9-FAB9-0-8ABF FABA-FABA-0-8AF8",
   "FABB-FABB-0-8ACB FABC-FABC-0-8B01 FABD-FABD-0-8AFE FABE-FABE-0-8AED FABF-FABF-0-8B39",
   "FAC0-FAC0-0-8B8A FAC1-FAC1-0-8D08 FAC2-FAC2-0-8F38 FAC3-FAC3-0-9072 FAC4-FAC4-0-9199",
   "FAC5-FAC5-0-9276 FAC6-FAC6-0-967C FAC7-FAC7-0-96E3 FAC8-FAC8-0-9756 FAC9-FAC9-0-97DB",
   "FACA-FACA-0-97FF FACB-FACB-0-980B FACC-FACC-0-983B FACD-FACD-0-9B12 FACE-FACE-0-9F9C",
   "FACF-FACF-0-2284A FAD0-FAD0-0-22844 FAD1-FAD1-0-233D5 FAD2-FAD2-0-3B9D FAD3-FAD3-0-4018",
   "FAD4-FAD4-0-4039 FAD5-FAD5-0-25249 FAD6-FAD6-0-25CD0 FAD7-FAD7-0-27ED3 FAD8-FAD8-0-9F43",
   "FAD9-FAD9-0-9F8E FB00-FB00-0-66.66 FB01-FB01-0-66.69 FB02-FB02-0-66.6C FB03-FB03-0-66.66.69",
   "FB04-FB04-0-66.66.6C FB05-FB06-0-73.74 FB13-FB13-0-574.576 FB14-FB14-0-574.565",
   "FB15-FB15-0-574.56B FB16-FB16-0-57E.576 FB17-FB17-0-574.56D FB1D-FB1D-0-5D9.5B4",
   "FB1F-FB1F-0-5F2.5B7 FB20-FB20-0-5E2 FB21-FB21-0-5D0 FB22-FB23-1-5D3 FB24-FB26-1-5DB",
   "FB27-FB27-0-5E8 FB28-FB28-0-5EA FB29-FB29-0-2B FB2A-FB2A-0-5E9.5C1 FB2B-FB2B-0-5E9.5C2",
   "FB2C-FB2C-0-5E9.5BC.5C1 FB2D-FB2D-0-5E9.5BC.5C2 FB2E-FB2E-0-5D0.5B7 FB2F-FB2F-0-5D0.5B8",
   "FB30-FB30-0-5D0.5BC FB31-FB31-0-5D1.5BC FB32-FB32-0-5D2.5BC FB33-FB33-0-5D3.5BC",
   "FB34-FB34-0-5D4.5BC FB35-FB35-0-5D5.5BC FB36-FB36-0-5D6.5BC FB38-FB38-0-5D8.5BC",
   "FB39-FB39-0-5D9.5BC FB3A-FB3A-0-5DA.5BC FB3B-FB3B-0-5DB.5BC FB3C-FB3C-0-5DC.5BC",
   "FB3E-FB3E-0-5DE.5BC FB40-FB40-0-5E0.5BC FB41-FB41-0-5E1.5BC FB43-FB43-0-5E3.5BC",
   "FB44-FB44-0-5E4.5BC FB46-FB46-0-5E6.5BC FB47-FB47-0-5E7.5BC FB48-FB48-0-5E8.5BC",
   "FB49-FB49-0-5E9.5BC FB4A-FB4A-0-5EA.5BC FB4B-FB4B-0-5D5.5B9 FB4C-FB4C-0-5D1.5BF",
   "FB4D-FB4D-0-5DB.5BF FB4E-FB4E-0-5E4.5BF FB4F-FB4F-0-5D0.5DC FB50-FB51-0-671 FB52-FB55-0-67B",
   "FB56-FB59-0-67E FB5A-FB5D-0-680 FB5E-FB61-0-67A FB62-FB65-0-67F FB66-FB69-0-679",
   "FB6A-FB6D-0-6A4 FB6E-FB71-0-6A6 FB72-FB75-0-684 FB76-FB79-0-683 FB7A-FB7D-0-686",
   "FB7E-FB81-0-687 FB82-FB83-0-68D FB84-FB85-0-68C FB86-FB87-0-68E FB88-FB89-0-688",
   "FB8A-FB8B-0-698 FB8C-FB8D-0-691 FB8E-FB91-0-6A9 FB92-FB95-0-6AF FB96-FB99-0-6B3",
   "FB9A-FB9D-0-6B1 FB9E-FB9F-0-6BA FBA0-FBA3-0-6BB FBA4-FBA5-0-6C0 FBA6-FBA9-0-6C1",
   "FBAA-FBAD-0-6BE FBAE-FBAF-0-6D2 FBB0-FBB1-0-6D3 FBD3-FBD6-0-6AD FBD7-FBD8-0-6C7",
   "FBD9-FBDA-0-6C6 FBDB-FBDC-0-6C8 FBDD-FBDD-0-6C7.674 FBDE-FBDF-0-6CB FBE0-FBE1-0-6C5",
   "FBE2-FBE3-0-6C9 FBE4-FBE7-0-6D0 FBE8-FBE9-0-649 FBEA-FBEB-0-626.627 FBEC-FBED-0-626.6D5",
   "FBEE-FBEF-0-626.648 FBF0-FBF1-0-626.6C7 FBF2-FBF3-0-626.6C6 FBF4-FBF5-0-626.6C8",
   "FBF6-FBF8-0-626.6D0 FBF9-FBFB-0-626.649 FBFC-FBFF-0-6CC FC00-FC00-0-626.62C",
   "FC01-FC01-0-626.62D FC02-FC02-0-626.645 FC03-FC03-0-626.649 FC04-FC04-0-626.64A",
   "FC05-FC05-0-628.62C FC06-FC06-0-628.62D FC07-FC07-0-628.62E FC08-FC08-0-628.645",
   "FC09-FC09-0-628.649 FC0A-FC0A-0-628.64A FC0B-FC0B-0-62A.62C FC0C-FC0C-0-62A.62D",
   "FC0D-FC0D-0-62A.62E FC0E-FC0E-0-62A.645 FC0F-FC0F-0-62A.649 FC10-FC10-0-62A.64A",
   "FC11-FC11-0-62B.62C FC12-FC12-0-62B.645 FC13-FC13-0-62B.649 FC14-FC14-0-62B.64A",
   "FC15-FC15-0-62C.62D FC16-FC16-0-62C.645 FC17-FC17-0-62D.62C FC18-FC18-0-62D.645",
   "FC19-FC19-0-62E.62C FC1A-FC1A-0-62E.62D FC1B-FC1B-0-62E.645 FC1C-FC1C-0-633.62C",
   "FC1D-FC1D-0-633.62D FC1E-FC1E-0-633.62E FC1F-FC1F-0-633.645 FC20-FC20-0-635.62D",
   "FC21-FC21-0-635.645 FC22-FC22-0-636.62C FC23-FC23-0-636.62D FC24-FC24-0-636.62E",
   "FC25-FC25-0-636.645 FC26-FC26-0-637.62D FC27-FC27-0-637.645 FC28-FC28-0-638.645",
   "FC29-FC29-0-639.62C FC2A-FC2A-0-639.645 FC2B-FC2B-0-63A.62C FC2C-FC2C-0-63A.645",
   "FC2D-FC2D-0-641.62C FC2E-FC2E-0-641.62D FC2F-FC2F-0-641.62E FC30-FC30-0-641.645",
   "FC31-FC31-0-641.649 FC32-FC32-0-641.64A FC33-FC33-0-642.62D FC34-FC34-0-642.645",
   "FC35-FC35-0-642.649 FC36-FC36-0-642.64A FC37-FC37-0-643.627 FC38-FC38-0-643.62C",
   "FC39-FC39-0-643.62D FC3A-FC3A-0-643.62E FC3B-FC3B-0-643.644 FC3C-FC3C-0-643.645",
   "FC3D-FC3D-0-643.649 FC3E-FC3E-0-643.64A FC3F-FC3F-0-644.62C FC40-FC40-0-644.62D",
   "FC41-FC41-0-644.62E FC42-FC42-0-644.645 FC43-FC43-0-644.649 FC44-FC44-0-644.64A",
   "FC45-FC45-0-645.62C FC46-FC46-0-645.62D FC47-FC47-0-645.62E FC48-FC48-0-645.645",
   "FC49-FC49-0-645.649 FC4A-FC4A-0-645.64A FC4B-FC4B-0-646.62C FC4C-FC4C-0-646.62D",
   "FC4D-FC4D-0-646.62E FC4E-FC4E-0-646.645 FC4F-FC4F-0-646.649 FC50-FC50-0-646.64A",
   "FC51-FC51-0-647.62C FC52-FC52-0-647.645 FC53-FC53-0-647.649 FC54-FC54-0-647.64A",
   "FC55-FC55-0-64A.62C FC56-FC56-0-64A.62D FC57-FC57-0-64A.62E FC58-FC58-0-64A.645",
   "FC59-FC59-0-64A.649 FC5A-FC5A-0-64A.64A FC5B-FC5B-0-630.670 FC5C-FC5C-0-631.670",
   "FC5D-FC5D-0-649.670 FC5E-FC5E-0-20.64C.651 FC5F-FC5F-0-20.64D.651 FC60-FC60-0-20.64E.651",
   "FC61-FC61-0-20.64F.651 FC62-FC62-0-20.650.651 FC63-FC63-0-20.651.670 FC64-FC64-0-626.631",
   "FC65-FC65-0-626.632 FC66-FC66-0-626.645 FC67-FC67-0-626.646 FC68-FC68-0-626.649",
   "FC69-FC69-0-626.64A FC6A-FC6A-0-628.631 FC6B-FC6B-0-628.632 FC6C-FC6C-0-628.645",
   "FC6D-FC6D-0-628.646 FC6E-FC6E-0-628.649 FC6F-FC6F-0-628.64A FC70-FC70-0-62A.631",
   "FC71-FC71-0-62A.632 FC72-FC72-0-62A.645 FC73-FC73-0-62A.646 FC74-FC74-0-62A.649",
   "FC75-FC75-0-62A.64A FC76-FC76-0-62B.631 FC77-FC77-0-62B.632 FC78-FC78-0-62B.645",
   "FC79-FC79-0-62B.646 FC7A-FC7A-0-62B.649 FC7B-FC7B-0-62B.64A FC7C-FC7C-0-641.649",
   "FC7D-FC7D-0-641.64A FC7E-FC7E-0-642.649 FC7F-FC7F-0-642.64A FC80-FC80-0-643.627",
   "FC81-FC81-0-643.644 FC82-FC82-0-643.645 FC83-FC83-0-643.649 FC84-FC84-0-643.64A",
   "FC85-FC85-0-644.645 FC86-FC86-0-644.649 FC87-FC87-0-644.64A FC88-FC88-0-645.627",
   "FC89-FC89-0-645.645 FC8A-FC8A-0-646.631 FC8B-FC8B-0-646.632 FC8C-FC8C-0-646.645",
   "FC8D-FC8D-0-646.646 FC8E-FC8E-0-646.649 FC8F-FC8F-0-646.64A FC90-FC90-0-649.670",
   "FC91-FC91-0-64A.631 FC92-FC92-0-64A.632 FC93-FC93-0-64A.645 FC94-FC94-0-64A.646",
   "FC95-FC95-0-64A.649 FC96-FC96-0-64A.64A FC97-FC97-0-626.62C FC98-FC98-0-626.62D",
   "FC99-FC99-0-626.62E FC9A-FC9A-0-626.645 FC9B-FC9B-0-626.647 FC9C-FC9C-0-628.62C",
   "FC9D-FC9D-0-628.62D FC9E-FC9E-0-628.62E FC9F-FC9F-0-628.645 FCA0-FCA0-0-628.647",
   "FCA1-FCA1-0-62A.62C FCA2-FCA2-0-62A.62D FCA3-FCA3-0-62A.62E FCA4-FCA4-0-62A.645",
   "FCA5-FCA5-0-62A.647 FCA6-FCA6-0-62B.645 FCA7-FCA7-0-62C.62D FCA8-FCA8-0-62C.645",
   "FCA9-FCA9-0-62D.62C FCAA-FCAA-0-62D.645 FCAB-FCAB-0-62E.62C FCAC-FCAC-0-62E.645",
   "FCAD-FCAD-0-633.62C FCAE-FCAE-0-633.62D FCAF-FCAF-0-633.62E FCB0-FCB0-0-633.645",
   "FCB1-FCB1-0-635.62D FCB2-FCB2-0-635.62E FCB3-FCB3-0-635.645 FCB4-FCB4-0-636.62C",
   "FCB5-FCB5-0-636.62D FCB6-FCB6-0-636.62E FCB7-FCB7-0-636.645 FCB8-FCB8-0-637.62D",
   "FCB9-FCB9-0-638.645 FCBA-FCBA-0-639.62C FCBB-FCBB-0-639.645 FCBC-FCBC-0-63A.62C",
   "FCBD-FCBD-0-63A.645 FCBE-FCBE-0-641.62C FCBF-FCBF-0-641.62D FCC0-FCC0-0-641.62E",
   "FCC1-FCC1-0-641.645 FCC2-FCC2-0-642.62D FCC3-FCC3-0-642.645 FCC4-FCC4-0-643.62C",
   "FCC5-FCC5-0-643.62D FCC6-FCC6-0-643.62E FCC7-FCC7-0-643.644 FCC8-FCC8-0-643.645",
   "FCC9-FCC9-0-644.62C FCCA-FCCA-0-644.62D FCCB-FCCB-0-644.62E FCCC-FCCC-0-644.645",
   "FCCD-FCCD-0-644.647 FCCE-FCCE-0-645.62C FCCF-FCCF-0-645.62D FCD0-FCD0-0-645.62E",
   "FCD1-FCD1-0-645.645 FCD2-FCD2-0-646.62C FCD3-FCD3-0-646.62D FCD4-FCD4-0-646.62E",
   "FCD5-FCD5-0-646.645 FCD6-FCD6-0-646.647 FCD7-FCD7-0-647.62C FCD8-FCD8-0-647.645",
   "FCD9-FCD9-0-647.670 FCDA-FCDA-0-64A.62C FCDB-FCDB-0-64A.62D FCDC-FCDC-0-64A.62E",
   "FCDD-FCDD-0-64A.645 FCDE-FCDE-0-64A.647 FCDF-FCDF-0-626.645 FCE0-FCE0-0-626.647",
   "FCE1-FCE1-0-628.645 FCE2-FCE2-0-628.647 FCE3-FCE3-0-62A.645 FCE4-FCE4-0-62A.647",
   "FCE5-FCE5-0-62B.645 FCE6-FCE6-0-62B.647 FCE7-FCE7-0-633.645 FCE8-FCE8-0-633.647",
   "FCE9-FCE9-0-634.645 FCEA-FCEA-0-634.647 FCEB-FCEB-0-643.644 FCEC-FCEC-0-643.645",
   "FCED-FCED-0-644.645 FCEE-FCEE-0-646.645 FCEF-FCEF-0-646.647 FCF0-FCF0-0-64A.645",
   "FCF1-FCF1-0-64A.647 FCF2-FCF2-0-640.64E.651 FCF3-FCF3-0-640.64F.651 FCF4-FCF4-0-640.650.651",
   "FCF5-FCF5-0-637.649 FCF6-FCF6-0-637.64A FCF7-FCF7-0-639.649 FCF8-FCF8-0-639.64A",
   "FCF9-FCF9-0-63A.649 FCFA-FCFA-0-63A.64A FCFB-FCFB-0-633.649 FCFC-FCFC-0-633.64A",
   "FCFD-FCFD-0-634.649 FCFE-FCFE-0-634.64A FCFF-FCFF-0-62D.649 FD00-FD00-0-62D.64A",
   "FD01-FD01-0-62C.649 FD02-FD02-0-62C.64A FD03-FD03-0-62E.649 FD04-FD04-0-62E.64A",
   "FD05-FD05-0-635.649 FD06-FD06-0-635.64A FD07-FD07-0-636.649 FD08-FD08-0-636.64A",
   "FD09-FD09-0-634.62C FD0A-FD0A-0-634.62D FD0B-FD0B-0-634.62E FD0C-FD0C-0-634.645",
   "FD0D-FD0D-0-634.631 FD0E-FD0E-0-633.631 FD0F-FD0F-0-635.631 FD10-FD10-0-636.631",
   "FD11-FD11-0-637.649 FD12-FD12-0-637.64A FD13-FD13-0-639.649 FD14-FD14-0-639.64A",
   "FD15-FD15-0-63A.649 FD16-FD16-0-63A.64A FD17-FD17-0-633.649 FD18-FD18-0-633.64A",
   "FD19-FD19-0-634.649 FD1A-FD1A-0-634.64A FD1B-FD1B-0-62D.649 FD1C-FD1C-0-62D.64A",
   "FD1D-FD1D-0-62C.649 FD1E-FD1E-0-62C.64A FD1F-FD1F-0-62E.649 FD20-FD20-0-62E.64A",
   "FD21-FD21-0-635.649 FD22-FD22-0-635.64A FD23-FD23-0-636.649 FD24-FD24-0-636.64A",
   "FD25-FD25-0-634.62C FD26-FD26-0-634.62D FD27-FD27-0-634.62E FD28-FD28-0-634.645",
   "FD29-FD29-0-634.631 FD2A-FD2A-0-633.631 FD2B-FD2B-0-635.631 FD2C-FD2C-0-636.631",
   "FD2D-FD2D-0-634.62C FD2E-FD2E-0-634.62D FD2F-FD2F-0-634.62E FD30-FD30-0-634.645",
   "FD31-FD31-0-633.647 FD32-FD32-0-634.647 FD33-FD33-0-637.645 FD34-FD34-0-633.62C",
   "FD35-FD35-0-633.62D FD36-FD36-0-633.62E FD37-FD37-0-634.62C FD38-FD38-0-634.62D",
   "FD39-FD39-0-634.62E FD3A-FD3A-0-637.645 FD3B-FD3B-0-638.645 FD3C-FD3D-0-627.64B",
   "FD50-FD50-0-62A.62C.645 FD51-FD52-0-62A.62D.62C FD53-FD53-0-62A.62D.645",
   "FD54-FD54-0-62A.62E.645 FD55-FD55-0-62A.645.62C FD56-FD56-0-62A.645.62D",
   "FD57-FD57-0-62A.645.62E FD58-FD59-0-62C.645.62D FD5A-FD5A-0-62D.645.64A",
   "FD5B-FD5B-0-62D.645.649 FD5C-FD5C-0-633.62D.62C FD5D-FD5D-0-633.62C.62D",
   "FD5E-FD5E-0-633.62C.649 FD5F-FD60-0-633.645.62D FD61-FD61-0-633.645.62C",
   "FD62-FD63-0-633.645.645 FD64-FD65-0-635.62D.62D FD66-FD66-0-635.645.645",
   "FD67-FD68-0-634.62D.645 FD69-FD69-0-634.62C.64A FD6A-FD6B-0-634.645.62E",
   "FD6C-FD6D-0-634.645.645 FD6E-FD6E-0-636.62D.649 FD6F-FD70-0-636.62E.645",
   "FD71-FD72-0-637.645.62D FD73-FD73-0-637.645.645 FD74-FD74-0-637.645.64A",
   "FD75-FD75-0-639.62C.645 FD76-FD77-0-639.645.645 FD78-FD78-0-639.645.649",
   "FD79-FD79-0-63A.645.645 FD7A-FD7A-0-63A.645.64A FD7B-FD7B-0-63A.645.649",
   "FD7C-FD7D-0-641.62E.645 FD7E-FD7E-0-642.645.62D FD7F-FD7F-0-642.645.645",
   "FD80-FD80-0-644.62D.645 FD81-FD81-0-644.62D.64A FD82-FD82-0-644.62D.649",
   "FD83-FD84-0-644.62C.62C FD85-FD86-0-644.62E.645 FD87-FD88-0-644.645.62D",
   "FD89-FD89-0-645.62D.62C FD8A-FD8A-0-645.62D.645 FD8B-FD8B-0-645.62D.64A",
   "FD8C-FD8C-0-645.62C.62D FD8D-FD8D-0-645.62C.645 FD8E-FD8E-0-645.62E.62C",
   "FD8F-FD8F-0-645.62E.645 FD92-FD92-0-645.62C.62E FD93-FD93-0-647.645.62C",
   "FD94-FD94-0-647.645.645 FD95-FD95-0-646.62D.645 FD96-FD96-0-646.62D.649",
   "FD97-FD98-0-646.62C.645 FD99-FD99-0-646.62C.649 FD9A-FD9A-0-646.645.64A",
   "FD9B-FD9B-0-646.645.649 FD9C-FD9D-0-64A.645.645 FD9E-FD9E-0-628.62E.64A",
   "FD9F-FD9F-0-62A.62C.64A FDA0-FDA0-0-62A.62C.649 FDA1-FDA1-0-62A.62E.64A",
   "FDA2-FDA2-0-62A.62E.649 FDA3-FDA3-0-62A.645.64A FDA4-FDA4-0-62A.645.649",
   "FDA5-FDA5-0-62C.645.64A FDA6-FDA6-0-62C.62D.649 FDA7-FDA7-0-62C.645.649",
   "FDA8-FDA8-0-633.62E.649 FDA9-FDA9-0-635.62D.64A FDAA-FDAA-0-634.62D.64A",
   "FDAB-FDAB-0-636.62D.64A FDAC-FDAC-0-644.62C.64A FDAD-FDAD-0-644.645.64A",
   "FDAE-FDAE-0-64A.62D.64A FDAF-FDAF-0-64A.62C.64A FDB0-FDB0-0-64A.645.64A",
   "FDB1-FDB1-0-645.645.64A FDB2-FDB2-0-642.645.64A FDB3-FDB3-0-646.62D.64A",
   "FDB4-FDB4-0-642.645.62D FDB5-FDB5-0-644.62D.645 FDB6-FDB6-0-639.645.64A",
   "FDB7-FDB7-0-643.645.64A FDB8-FDB8-0-646.62C.62D FDB9-FDB9-0-645.62E.64A",
   "FDBA-FDBA-0-644.62C.645 FDBB-FDBB-0-643.645.645 FDBC-FDBC-0-644.62C.645",
   "FDBD-FDBD-0-646.62C.62D FDBE-FDBE-0-62C.62D.64A FDBF-FDBF-0-62D.62C.64A",
   "FDC0-FDC0-0-645.62C.64A FDC1-FDC1-0-641.645.64A FDC2-FDC2-0-628.62D.64A",
   "FDC3-FDC3-0-643.645.645 FDC4-FDC4-0-639.62C.645 FDC5-FDC5-0-635.645.645",
   "FDC6-FDC6-0-633.62E.64A FDC7-FDC7-0-646.62C.64A FDF0-FDF0-0-635.644.6D2",
   "FDF1-FDF1-0-642.644.6D2 FDF2-FDF2-0-627.644.644.647 FDF3-FDF3-0-627.643.628.631",
   "FDF4-FDF4-0-645.62D.645.62F FDF5-FDF5-0-635.644.639.645 FDF6-FDF6-0-631.633.648.644",
   "FDF7-FDF7-0-639.644.64A.647 FDF8-FDF8-0-648.633.644.645 FDF9-FDF9-0-635.644.649",
   "FDFA-FDFA-0-635.644.649.20.627.644.644.647.20.639.644.64A.647.20.648.633.644.645",
   "FDFB-FDFB-0-62C.644.20.62C.644.627.644.647 FDFC-FDFC-0-631.6CC.627.644 FE00-FE0F-0-",
   "FE10-FE10-0-2C FE11-FE11-0-3001 FE13-FE14-1-3A FE15-FE15-0-21 FE16-FE16-0-3F FE17-FE18-1-3016",
   "FE31-FE31-0-2014 FE32-FE32-0-2013 FE33-FE34-0-5F FE35-FE36-1-28 FE37-FE37-0-7B FE38-FE38-0-7D",
   "FE39-FE3A-1-3014 FE3B-FE3C-1-3010 FE3D-FE3E-1-300A FE3F-FE40-1-3008 FE41-FE44-1-300C",
   "FE47-FE47-0-5B FE48-FE48-0-5D FE49-FE4C-0-20.305 FE4D-FE4F-0-5F FE50-FE50-0-2C",
   "FE51-FE51-0-3001 FE54-FE54-0-3B FE55-FE55-0-3A FE56-FE56-0-3F FE57-FE57-0-21 FE58-FE58-0-2014",
   "FE59-FE5A-1-28 FE5B-FE5B-0-7B FE5C-FE5C-0-7D FE5D-FE5E-1-3014 FE5F-FE5F-0-23 FE60-FE60-0-26",
   "FE61-FE62-1-2A FE63-FE63-0-2D FE64-FE64-0-3C FE65-FE65-0-3E FE66-FE66-0-3D FE68-FE68-0-5C",
   "FE69-FE6A-1-24 FE6B-FE6B-0-40 FE70-FE70-0-20.64B FE71-FE71-0-640.64B FE72-FE72-0-20.64C",
   "FE74-FE74-0-20.64D FE76-FE76-0-20.64E FE77-FE77-0-640.64E FE78-FE78-0-20.64F",
   "FE79-FE79-0-640.64F FE7A-FE7A-0-20.650 FE7B-FE7B-0-640.650 FE7C-FE7C-0-20.651",
   "FE7D-FE7D-0-640.651 FE7E-FE7E-0-20.652 FE7F-FE7F-0-640.652 FE80-FE81-1-621 FE82-FE83-1-622",
   "FE84-FE85-1-623 FE86-FE87-1-624 FE88-FE89-1-625 FE8A-FE8C-0-626 FE8D-FE8E-0-627",
   "FE8F-FE92-0-628 FE93-FE94-0-629 FE95-FE98-0-62A FE99-FE9C-0-62B FE9D-FEA0-0-62C",
   "FEA1-FEA4-0-62D FEA5-FEA8-0-62E FEA9-FEAA-0-62F FEAB-FEAC-0-630 FEAD-FEAE-0-631",
   "FEAF-FEB0-0-632 FEB1-FEB4-0-633 FEB5-FEB8-0-634 FEB9-FEBC-0-635 FEBD-FEC0-0-636",
   "FEC1-FEC4-0-637 FEC5-FEC8-0-638 FEC9-FECC-0-639 FECD-FED0-0-63A FED1-FED4-0-641",
   "FED5-FED8-0-642 FED9-FEDC-0-643 FEDD-FEE0-0-644 FEE1-FEE4-0-645 FEE5-FEE8-0-646",
   "FEE9-FEEC-0-647 FEED-FEEE-0-648 FEEF-FEF0-0-649 FEF1-FEF4-0-64A FEF5-FEF6-0-644.622",
   "FEF7-FEF8-0-644.623 FEF9-FEFA-0-644.625 FEFB-FEFC-0-644.627 FEFF-FEFF-0- FF01-FF20-1-21",
   "FF21-FF3A-1-61 FF3B-FF5E-1-5B FF5F-FF60-1-2985 FF61-FF61-0-2E FF62-FF63-1-300C",
   "FF64-FF64-0-3001 FF65-FF65-0-30FB FF66-FF66-0-30F2 FF67-FF67-0-30A1 FF68-FF68-0-30A3",
   "FF69-FF69-0-30A5 FF6A-FF6A-0-30A7 FF6B-FF6B-0-30A9 FF6C-FF6C-0-30E3 FF6D-FF6D-0-30E5",
   "FF6E-FF6E-0-30E7 FF6F-FF6F-0-30C3 FF70-FF70-0-30FC FF71-FF71-0-30A2 FF72-FF72-0-30A4",
   "FF73-FF73-0-30A6 FF74-FF74-0-30A8 FF75-FF76-1-30AA FF77-FF77-0-30AD FF78-FF78-0-30AF",
   "FF79-FF79-0-30B1 FF7A-FF7A-0-30B3 FF7B-FF7B-0-30B5 FF7C-FF7C-0-30B7 FF7D-FF7D-0-30B9",
   "FF7E-FF7E-0-30BB FF7F-FF7F-0-30BD FF80-FF80-0-30BF FF81-FF81-0-30C1 FF82-FF82-0-30C4",
   "FF83-FF83-0-30C6 FF84-FF84-0-30C8 FF85-FF8A-1-30CA FF8B-FF8B-0-30D2 FF8C-FF8C-0-30D5",
   "FF8D-FF8D-0-30D8 FF8E-FF8E-0-30DB FF8F-FF93-1-30DE FF94-FF94-0-30E4 FF95-FF95-0-30E6",
   "FF96-FF9B-1-30E8 FF9C-FF9C-0-30EF FF9D-FF9D-0-30F3 FF9E-FF9F-1-3099 FFA0-FFA0-0-",
   "FFA1-FFA2-1-1100 FFA3-FFA3-0-11AA FFA4-FFA4-0-1102 FFA5-FFA6-1-11AC FFA7-FFA9-1-1103",
   "FFAA-FFAF-1-11B0 FFB0-FFB0-0-111A FFB1-FFB3-1-1106 FFB4-FFB4-0-1121 FFB5-FFBE-1-1109",
   "FFC2-FFC7-1-1161 FFCA-FFCF-1-1167 FFD2-FFD7-1-116D FFDA-FFDC-1-1173 FFE0-FFE1-1-A2",
   "FFE2-FFE2-0-AC FFE3-FFE3-0-20.304 FFE4-FFE4-0-A6 FFE5-FFE5-0-A5 FFE6-FFE6-0-20A9",
   "FFE8-FFE8-0-2502 FFE9-FFEC-1-2190 FFED-FFED-0-25A0 FFEE-FFEE-0-25CB 10400-10427-1-10428",
   "104B0-104D3-1-104D8 10570-1057A-1-10597 1057C-1058A-1-105A3 1058C-10592-1-105B3",
   "10594-10595-1-105BB 10781-10782-1-2D0 10783-10783-0-E6 10784-10784-0-299 10785-10785-0-253",
   "10787-10787-0-2A3 10788-10788-0-AB66 10789-10789-0-2A5 1078A-1078A-0-2A4 1078B-1078C-1-256",
   "1078D-1078D-0-1D91 1078E-1078E-0-258 1078F-1078F-0-25E 10790-10790-0-2A9 10791-10791-0-264",
   "10792-10792-0-262 10793-10793-0-260 10794-10794-0-29B 10795-10795-0-127 10796-10796-0-29C",
   "10797-10797-0-267 10798-10798-0-284 10799-1079A-1-2AA 1079B-1079B-0-26C 1079C-1079C-0-1DF04",
   "1079D-1079D-0-A78E 1079E-1079E-0-26E 1079F-1079F-0-1DF05 107A0-107A0-0-28E 107A1-107A1-0-1DF06",
   "107A2-107A2-0-F8 107A3-107A4-1-276 107A5-107A5-0-71 107A6-107A6-0-27A 107A7-107A7-0-1DF08",
   "107A8-107A9-1-27D 107AA-107AA-0-280 107AB-107AB-0-2A8 107AC-107AC-0-2A6 107AD-107AD-0-AB67",
   "107AE-107AE-0-2A7 107AF-107AF-0-288 107B0-107B0-0-2C71 107B2-107B2-0-28F 107B3-107B4-1-2A1",
   "107B5-107B5-0-298 107B6-107B8-1-1C0 107B9-107B9-0-1DF0A 107BA-107BA-0-1DF1E",
   "10C80-10CB2-1-10CC0 10D50-10D65-1-10D70 118A0-118BF-1-118C0 16E40-16E5F-1-16E60",
   "16EA0-16EB8-1-16EBB 1BCA0-1BCA3-0- 1CCD6-1CCEF-1-61 1CCF0-1CCF9-1-30 1D15E-1D15E-0-1D157.1D165",
   "1D15F-1D15F-0-1D158.1D165 1D160-1D160-0-1D158.1D165.1D16E 1D161-1D161-0-1D158.1D165.1D16F",
   "1D162-1D162-0-1D158.1D165.1D170 1D163-1D163-0-1D158.1D165.1D171",
   "1D164-1D164-0-1D158.1D165.1D172 1D173-1D17A-0- 1D1BB-1D1BB-0-1D1B9.1D165",
   "1D1BC-1D1BC-0-1D1BA.1D165 1D1BD-1D1BD-0-1D1B9.1D165.1D16E 1D1BE-1D1BE-0-1D1BA.1D165.1D16E",
   "1D1BF-1D1BF-0-1D1B9.1D165.1D16F 1D1C0-1D1C0-0-1D1BA.1D165.1D16F 1D400-1D419-1-61",
   "1D41A-1D433-1-61 1D434-1D44D-1-61 1D44E-1D454-1-61 1D456-1D467-1-69 1D468-1D481-1-61",
   "1D482-1D49B-1-61 1D49C-1D49E-2-61 1D49F-1D49F-0-64 1D4A2-1D4A2-0-67 1D4A5-1D4A6-1-6A",
   "1D4A9-1D4AC-1-6E 1D4AE-1D4B5-1-73 1D4B6-1D4B9-1-61 1D4BB-1D4BD-2-66 1D4BE-1D4C3-1-69",
   "1D4C5-1D4CF-1-70 1D4D0-1D4E9-1-61 1D4EA-1D503-1-61 1D504-1D505-1-61 1D507-1D50A-1-64",
   "1D50D-1D514-1-6A 1D516-1D51C-1-73 1D51E-1D537-1-61 1D538-1D539-1-61 1D53B-1D53E-1-64",
   "1D540-1D544-1-69 1D546-1D546-0-6F 1D54A-1D550-1-73 1D552-1D56B-1-61 1D56C-1D585-1-61",
   "1D586-1D59F-1-61 1D5A0-1D5B9-1-61 1D5BA-1D5D3-1-61 1D5D4-1D5ED-1-61 1D5EE-1D607-1-61",
   "1D608-1D621-1-61 1D622-1D63B-1-61 1D63C-1D655-1-61 1D656-1D66F-1-61 1D670-1D689-1-61",
   "1D68A-1D6A3-1-61 1D6A4-1D6A4-0-131 1D6A5-1D6A5-0-237 1D6A8-1D6B8-1-3B1 1D6B9-1D6B9-0-3B8",
   "1D6BA-1D6C0-1-3C3 1D6C1-1D6C1-0-2207 1D6C2-1D6D2-1-3B1 1D6D3-1D6D4-0-3C3 1D6D5-1D6DA-1-3C4",
   "1D6DB-1D6DB-0-2202 1D6DC-1D6DC-0-3B5 1D6DD-1D6DD-0-3B8 1D6DE-1D6DE-0-3BA 1D6DF-1D6DF-0-3C6",
   "1D6E0-1D6E0-0-3C1 1D6E1-1D6E1-0-3C0 1D6E2-1D6F2-1-3B1 1D6F3-1D6F3-0-3B8 1D6F4-1D6FA-1-3C3",
   "1D6FB-1D6FB-0-2207 1D6FC-1D70C-1-3B1 1D70D-1D70E-0-3C3 1D70F-1D714-1-3C4 1D715-1D715-0-2202",
   "1D716-1D716-0-3B5 1D717-1D717-0-3B8 1D718-1D718-0-3BA 1D719-1D719-0-3C6 1D71A-1D71A-0-3C1",
   "1D71B-1D71B-0-3C0 1D71C-1D72C-1-3B1 1D72D-1D72D-0-3B8 1D72E-1D734-1-3C3 1D735-1D735-0-2207",
   "1D736-1D746-1-3B1 1D747-1D748-0-3C3 1D749-1D74E-1-3C4 1D74F-1D74F-0-2202 1D750-1D750-0-3B5",
   "1D751-1D751-0-3B8 1D752-1D752-0-3BA 1D753-1D753-0-3C6 1D754-1D754-0-3C1 1D755-1D755-0-3C0",
   "1D756-1D766-1-3B1 1D767-1D767-0-3B8 1D768-1D76E-1-3C3 1D76F-1D76F-0-2207 1D770-1D780-1-3B1",
   "1D781-1D782-0-3C3 1D783-1D788-1-3C4 1D789-1D789-0-2202 1D78A-1D78A-0-3B5 1D78B-1D78B-0-3B8",
   "1D78C-1D78C-0-3BA 1D78D-1D78D-0-3C6 1D78E-1D78E-0-3C1 1D78F-1D78F-0-3C0 1D790-1D7A0-1-3B1",
   "1D7A1-1D7A1-0-3B8 1D7A2-1D7A8-1-3C3 1D7A9-1D7A9-0-2207 1D7AA-1D7BA-1-3B1 1D7BB-1D7BC-0-3C3",
   "1D7BD-1D7C2-1-3C4 1D7C3-1D7C3-0-2202 1D7C4-1D7C4-0-3B5 1D7C5-1D7C5-0-3B8 1D7C6-1D7C6-0-3BA",
   "1D7C7-1D7C7-0-3C6 1D7C8-1D7C8-0-3C1 1D7C9-1D7C9-0-3C0 1D7CA-1D7CB-0-3DD 1D7CE-1D7D7-1-30",
   "1D7D8-1D7E1-1-30 1D7E2-1D7EB-1-30 1D7EC-1D7F5-1-30 1D7F6-1D7FF-1-30 1E030-1E038-1-430",
   "1E039-1E03B-1-43A 1E03C-1E046-1-43E 1E047-1E047-0-44B 1E048-1E049-1-44D 1E04A-1E04A-0-A689",
   "1E04B-1E04B-0-4D9 1E04C-1E04C-0-456 1E04D-1E04D-0-458 1E04E-1E04E-0-4E9 1E04F-1E04F-0-4AF",
   "1E050-1E050-0-4CF 1E051-1E059-1-430 1E05A-1E05B-1-43A 1E05C-1E05D-1-43E 1E05E-1E05E-0-441",
   "1E05F-1E064-1-443 1E065-1E066-1-44A 1E067-1E067-0-491 1E068-1E068-0-456 1E069-1E069-0-455",
   "1E06A-1E06A-0-45F 1E06B-1E06B-0-4AB 1E06C-1E06C-0-A651 1E06D-1E06D-0-4B1 1E900-1E921-1-1E922",
   "1EE00-1EE01-1-627 1EE02-1EE02-0-62C 1EE03-1EE03-0-62F 1EE05-1EE05-0-648 1EE06-1EE06-0-632",
   "1EE07-1EE07-0-62D 1EE08-1EE08-0-637 1EE09-1EE09-0-64A 1EE0A-1EE0D-1-643 1EE0E-1EE0E-0-633",
   "1EE0F-1EE0F-0-639 1EE10-1EE10-0-641 1EE11-1EE11-0-635 1EE12-1EE12-0-642 1EE13-1EE13-0-631",
   "1EE14-1EE14-0-634 1EE15-1EE16-1-62A 1EE17-1EE17-0-62E 1EE18-1EE18-0-630 1EE19-1EE19-0-636",
   "1EE1A-1EE1A-0-638 1EE1B-1EE1B-0-63A 1EE1C-1EE1C-0-66E 1EE1D-1EE1D-0-6BA 1EE1E-1EE1E-0-6A1",
   "1EE1F-1EE1F-0-66F 1EE21-1EE21-0-628 1EE22-1EE22-0-62C 1EE24-1EE24-0-647 1EE27-1EE27-0-62D",
   "1EE29-1EE29-0-64A 1EE2A-1EE2D-1-643 1EE2E-1EE2E-0-633 1EE2F-1EE2F-0-639 1EE30-1EE30-0-641",
   "1EE31-1EE31-0-635 1EE32-1EE32-0-642 1EE34-1EE34-0-634 1EE35-1EE36-1-62A 1EE37-1EE37-0-62E",
   "1EE39-1EE39-0-636 1EE3B-1EE3B-0-63A 1EE42-1EE42-0-62C 1EE47-1EE47-0-62D 1EE49-1EE49-0-64A",
   "1EE4B-1EE4D-2-644 1EE4E-1EE4E-0-633 1EE4F-1EE4F-0-639 1EE51-1EE51-0-635 1EE52-1EE52-0-642",
   "1EE54-1EE54-0-634 1EE57-1EE57-0-62E 1EE59-1EE59-0-636 1EE5B-1EE5B-0-63A 1EE5D-1EE5D-0-6BA",
   "1EE5F-1EE5F-0-66F 1EE61-1EE61-0-628 1EE62-1EE62-0-62C 1EE64-1EE64-0-647 1EE67-1EE67-0-62D",
   "1EE68-1EE68-0-637 1EE69-1EE69-0-64A 1EE6A-1EE6C-2-643 1EE6D-1EE6D-0-646 1EE6E-1EE6E-0-633",
   "1EE6F-1EE6F-0-639 1EE70-1EE70-0-641 1EE71-1EE71-0-635 1EE72-1EE72-0-642 1EE74-1EE74-0-634",
   "1EE75-1EE76-1-62A 1EE77-1EE77-0-62E 1EE79-1EE79-0-636 1EE7A-1EE7A-0-638 1EE7B-1EE7B-0-63A",
   "1EE7C-1EE7C-0-66E 1EE7E-1EE7E-0-6A1 1EE80-1EE81-1-627 1EE82-1EE82-0-62C 1EE83-1EE83-0-62F",
   "1EE84-1EE85-1-647 1EE86-1EE86-0-632 1EE87-1EE87-0-62D 1EE88-1EE88-0-637 1EE89-1EE89-0-64A",
   "1EE8B-1EE8D-1-644 1EE8E-1EE8E-0-633 1EE8F-1EE8F-0-639 1EE90-1EE90-0-641 1EE91-1EE91-0-635",
   "1EE92-1EE92-0-642 1EE93-1EE93-0-631 1EE94-1EE94-0-634 1EE95-1EE96-1-62A 1EE97-1EE97-0-62E",
   "1EE98-1EE98-0-630 1EE99-1EE99-0-636 1EE9A-1EE9A-0-638 1EE9B-1EE9B-0-63A 1EEA1-1EEA1-0-628",
   "1EEA2-1EEA2-0-62C 1EEA3-1EEA3-0-62F 1EEA5-1EEA5-0-648 1EEA6-1EEA6-0-632 1EEA7-1EEA7-0-62D",
   "1EEA8-1EEA8-0-637 1EEA9-1EEA9-0-64A 1EEAB-1EEAD-1-644 1EEAE-1EEAE-0-633 1EEAF-1EEAF-0-639",
   "1EEB0-1EEB0-0-641 1EEB1-1EEB1-0-635 1EEB2-1EEB2-0-642 1EEB3-1EEB3-0-631 1EEB4-1EEB4-0-634",
   "1EEB5-1EEB6-1-62A 1EEB7-1EEB7-0-62E 1EEB8-1EEB8-0-630 1EEB9-1EEB9-0-636 1EEBA-1EEBA-0-638",
   "1EEBB-1EEBB-0-63A 1F101-1F101-0-30.2C 1F102-1F102-0-31.2C 1F103-1F103-0-32.2C",
   "1F104-1F104-0-33.2C 1F105-1F105-0-34.2C 1F106-1F106-0-35.2C 1F107-1F107-0-36.2C",
   "1F108-1F108-0-37.2C 1F109-1F109-0-38.2C 1F10A-1F10A-0-39.2C 1F110-1F110-0-28.61.29",
   "1F111-1F111-0-28.62.29 1F112-1F112-0-28.63.29 1F113-1F113-0-28.64.29 1F114-1F114-0-28.65.29",
   "1F115-1F115-0-28.66.29 1F116-1F116-0-28.67.29 1F117-1F117-0-28.68.29 1F118-1F118-0-28.69.29",
   "1F119-1F119-0-28.6A.29 1F11A-1F11A-0-28.6B.29 1F11B-1F11B-0-28.6C.29 1F11C-1F11C-0-28.6D.29",
   "1F11D-1F11D-0-28.6E.29 1F11E-1F11E-0-28.6F.29 1F11F-1F11F-0-28.70.29 1F120-1F120-0-28.71.29",
   "1F121-1F121-0-28.72.29 1F122-1F122-0-28.73.29 1F123-1F123-0-28.74.29 1F124-1F124-0-28.75.29",
   "1F125-1F125-0-28.76.29 1F126-1F126-0-28.77.29 1F127-1F127-0-28.78.29 1F128-1F128-0-28.79.29",
   "1F129-1F129-0-28.7A.29 1F12A-1F12A-0-3014.73.3015 1F12B-1F12B-0-63 1F12C-1F12C-0-72",
   "1F12D-1F12D-0-63.64 1F12E-1F12E-0-77.7A 1F130-1F149-1-61 1F14A-1F14A-0-68.76",
   "1F14B-1F14B-0-6D.76 1F14C-1F14C-0-73.64 1F14D-1F14D-0-73.73 1F14E-1F14E-0-70.70.76",
   "1F14F-1F14F-0-77.63 1F16A-1F16A-0-6D.63 1F16B-1F16B-0-6D.64 1F16C-1F16C-0-6D.72",
   "1F190-1F190-0-64.6A 1F200-1F200-0-307B.304B 1F201-1F201-0-30B3.30B3 1F202-1F202-0-30B5",
   "1F210-1F210-0-624B 1F211-1F211-0-5B57 1F212-1F212-0-53CC 1F213-1F213-0-30C7 1F214-1F214-0-4E8C",
   "1F215-1F215-0-591A 1F216-1F216-0-89E3 1F217-1F217-0-5929 1F218-1F218-0-4EA4 1F219-1F219-0-6620",
   "1F21A-1F21A-0-7121 1F21B-1F21B-0-6599 1F21C-1F21C-0-524D 1F21D-1F21D-0-5F8C 1F21E-1F21E-0-518D",
   "1F21F-1F21F-0-65B0 1F220-1F220-0-521D 1F221-1F221-0-7D42 1F222-1F222-0-751F 1F223-1F223-0-8CA9",
   "1F224-1F224-0-58F0 1F225-1F225-0-5439 1F226-1F226-0-6F14 1F227-1F227-0-6295 1F228-1F228-0-6355",
   "1F229-1F229-0-4E00 1F22A-1F22A-0-4E09 1F22B-1F22B-0-904A 1F22C-1F22C-0-5DE6 1F22D-1F22D-0-4E2D",
   "1F22E-1F22E-0-53F3 1F22F-1F22F-0-6307 1F230-1F230-0-8D70 1F231-1F231-0-6253 1F232-1F232-0-7981",
   "1F233-1F233-0-7A7A 1F234-1F234-0-5408 1F235-1F235-0-6E80 1F236-1F236-0-6709 1F237-1F237-0-6708",
   "1F238-1F238-0-7533 1F239-1F239-0-5272 1F23A-1F23A-0-55B6 1F23B-1F23B-0-914D",
   "1F240-1F240-0-3014.672C.3015 1F241-1F241-0-3014.4E09.3015 1F242-1F242-0-3014.4E8C.3015",
   "1F243-1F243-0-3014.5B89.3015 1F244-1F244-0-3014.70B9.3015 1F245-1F245-0-3014.6253.3015",
   "1F246-1F246-0-3014.76D7.3015 1F247-1F247-0-3014.52DD.3015 1F248-1F248-0-3014.6557.3015",
   "1F250-1F250-0-5F97 1F251-1F251-0-53EF 1FBF0-1FBF9-1-30 2F800-2F800-0-4E3D 2F801-2F801-0-4E38",
   "2F802-2F802-0-4E41 2F803-2F803-0-20122 2F804-2F804-0-4F60 2F805-2F805-0-4FAE",
   "2F806-2F806-0-4FBB 2F807-2F807-0-5002 2F808-2F808-0-507A 2F809-2F809-0-5099 2F80A-2F80A-0-50E7",
   "2F80B-2F80B-0-50CF 2F80C-2F80C-0-349E 2F80D-2F80D-0-2063A 2F80E-2F80E-0-514D",
   "2F80F-2F80F-0-5154 2F810-2F810-0-5164 2F811-2F811-0-5177 2F812-2F812-0-2051C",
   "2F813-2F813-0-34B9 2F814-2F814-0-5167 2F815-2F815-0-518D 2F816-2F816-0-2054B",
   "2F817-2F817-0-5197 2F818-2F818-0-51A4 2F819-2F819-0-4ECC 2F81A-2F81A-0-51AC 2F81B-2F81B-0-51B5",
   "2F81C-2F81C-0-291DF 2F81D-2F81D-0-51F5 2F81E-2F81E-0-5203 2F81F-2F81F-0-34DF",
   "2F820-2F820-0-523B 2F821-2F821-0-5246 2F822-2F822-0-5272 2F823-2F823-0-5277 2F824-2F824-0-3515",
   "2F825-2F825-0-52C7 2F826-2F826-0-52C9 2F827-2F827-0-52E4 2F828-2F828-0-52FA 2F829-2F82A-1-5305",
   "2F82B-2F82B-0-5317 2F82C-2F82C-0-5349 2F82D-2F82D-0-5351 2F82E-2F82E-0-535A 2F82F-2F82F-0-5373",
   "2F830-2F830-0-537D 2F831-2F833-0-537F 2F834-2F834-0-20A2C 2F835-2F835-0-7070",
   "2F836-2F836-0-53CA 2F837-2F837-0-53DF 2F838-2F838-0-20B63 2F839-2F839-0-53EB",
   "2F83A-2F83A-0-53F1 2F83B-2F83B-0-5406 2F83C-2F83C-0-549E 2F83D-2F83D-0-5438 2F83E-2F83E-0-5448",
   "2F83F-2F83F-0-5468 2F840-2F840-0-54A2 2F841-2F841-0-54F6 2F842-2F842-0-5510 2F843-2F843-0-5553",
   "2F844-2F844-0-5563 2F845-2F846-0-5584 2F847-2F847-0-5599 2F848-2F848-0-55AB 2F849-2F849-0-55B3",
   "2F84A-2F84A-0-55C2 2F84B-2F84B-0-5716 2F84C-2F84C-0-5606 2F84D-2F84D-0-5717 2F84E-2F84E-0-5651",
   "2F84F-2F84F-0-5674 2F850-2F850-0-5207 2F851-2F851-0-58EE 2F852-2F852-0-57CE 2F853-2F853-0-57F4",
   "2F854-2F854-0-580D 2F855-2F855-0-578B 2F856-2F856-0-5832 2F857-2F857-0-5831 2F858-2F858-0-58AC",
   "2F859-2F859-0-214E4 2F85A-2F85A-0-58F2 2F85B-2F85B-0-58F7 2F85C-2F85C-0-5906",
   "2F85D-2F85D-0-591A 2F85E-2F85E-0-5922 2F85F-2F85F-0-5962 2F860-2F860-0-216A8",
   "2F861-2F861-0-216EA 2F862-2F862-0-59EC 2F863-2F863-0-5A1B 2F864-2F864-0-5A27",
   "2F865-2F865-0-59D8 2F866-2F866-0-5A66 2F867-2F867-0-36EE 2F868-2F868-0-36FC 2F869-2F869-0-5B08",
   "2F86A-2F86B-0-5B3E 2F86C-2F86C-0-219C8 2F86D-2F86D-0-5BC3 2F86E-2F86E-0-5BD8",
   "2F86F-2F86F-0-5BE7 2F870-2F870-0-5BF3 2F871-2F871-0-21B18 2F872-2F872-0-5BFF",
   "2F873-2F873-0-5C06 2F874-2F874-0-5F53 2F875-2F875-0-5C22 2F876-2F876-0-3781 2F877-2F877-0-5C60",
   "2F878-2F878-0-5C6E 2F879-2F879-0-5CC0 2F87A-2F87A-0-5C8D 2F87B-2F87B-0-21DE4",
   "2F87C-2F87C-0-5D43 2F87D-2F87D-0-21DE6 2F87E-2F87E-0-5D6E 2F87F-2F87F-0-5D6B",
   "2F880-2F880-0-5D7C 2F881-2F882-1-5DE1 2F883-2F883-0-382F 2F884-2F884-0-5DFD 2F885-2F885-0-5E28",
   "2F886-2F886-0-5E3D 2F887-2F887-0-5E69 2F888-2F888-0-3862 2F889-2F889-0-22183",
   "2F88A-2F88A-0-387C 2F88B-2F88B-0-5EB0 2F88C-2F88C-0-5EB3 2F88D-2F88D-0-5EB6 2F88E-2F88E-0-5ECA",
   "2F88F-2F88F-0-2A392 2F890-2F890-0-5EFE 2F891-2F892-0-22331 2F893-2F893-0-8201",
   "2F894-2F895-0-5F22 2F896-2F896-0-38C7 2F897-2F897-0-232B8 2F898-2F898-0-261DA",
   "2F899-2F899-0-5F62 2F89A-2F89A-0-5F6B 2F89B-2F89B-0-38E3 2F89C-2F89C-0-5F9A 2F89D-2F89D-0-5FCD",
   "2F89E-2F89E-0-5FD7 2F89F-2F89F-0-5FF9 2F8A0-2F8A0-0-6081 2F8A1-2F8A1-0-393A 2F8A2-2F8A2-0-391C",
   "2F8A3-2F8A3-0-6094 2F8A4-2F8A4-0-226D4 2F8A5-2F8A5-0-60C7 2F8A6-2F8A6-0-6148",
   "2F8A7-2F8A7-0-614C 2F8A8-2F8A8-0-614E 2F8A9-2F8A9-0-614C 2F8AA-2F8AA-0-617A 2F8AB-2F8AB-0-618E",
   "2F8AC-2F8AC-0-61B2 2F8AD-2F8AD-0-61A4 2F8AE-2F8AE-0-61AF 2F8AF-2F8AF-0-61DE 2F8B0-2F8B0-0-61F2",
   "2F8B1-2F8B1-0-61F6 2F8B2-2F8B2-0-6210 2F8B3-2F8B3-0-621B 2F8B4-2F8B4-0-625D 2F8B5-2F8B5-0-62B1",
   "2F8B6-2F8B6-0-62D4 2F8B7-2F8B7-0-6350 2F8B8-2F8B8-0-22B0C 2F8B9-2F8B9-0-633D",
   "2F8BA-2F8BA-0-62FC 2F8BB-2F8BB-0-6368 2F8BC-2F8BC-0-6383 2F8BD-2F8BD-0-63E4",
   "2F8BE-2F8BE-0-22BF1 2F8BF-2F8BF-0-6422 2F8C0-2F8C0-0-63C5 2F8C1-2F8C1-0-63A9",
   "2F8C2-2F8C2-0-3A2E 2F8C3-2F8C3-0-6469 2F8C4-2F8C4-0-647E 2F8C5-2F8C5-0-649D 2F8C6-2F8C6-0-6477",
   "2F8C7-2F8C7-0-3A6C 2F8C8-2F8C8-0-654F 2F8C9-2F8C9-0-656C 2F8CA-2F8CA-0-2300A",
   "2F8CB-2F8CB-0-65E3 2F8CC-2F8CC-0-66F8 2F8CD-2F8CD-0-6649 2F8CE-2F8CE-0-3B19 2F8CF-2F8CF-0-6691",
   "2F8D0-2F8D0-0-3B08 2F8D1-2F8D1-0-3AE4 2F8D2-2F8D2-0-5192 2F8D3-2F8D3-0-5195 2F8D4-2F8D4-0-6700",
   "2F8D5-2F8D5-0-669C 2F8D6-2F8D6-0-80AD 2F8D7-2F8D7-0-43D9 2F8D8-2F8D8-0-6717 2F8D9-2F8D9-0-671B",
   "2F8DA-2F8DA-0-6721 2F8DB-2F8DB-0-675E 2F8DC-2F8DC-0-6753 2F8DD-2F8DD-0-233C3",
   "2F8DE-2F8DE-0-3B49 2F8DF-2F8DF-0-67FA 2F8E0-2F8E0-0-6785 2F8E1-2F8E1-0-6852 2F8E2-2F8E2-0-6885",
   "2F8E3-2F8E3-0-2346D 2F8E4-2F8E4-0-688E 2F8E5-2F8E5-0-681F 2F8E6-2F8E6-0-6914",
   "2F8E7-2F8E7-0-3B9D 2F8E8-2F8E8-0-6942 2F8E9-2F8E9-0-69A3 2F8EA-2F8EA-0-69EA 2F8EB-2F8EB-0-6AA8",
   "2F8EC-2F8EC-0-236A3 2F8ED-2F8ED-0-6ADB 2F8EE-2F8EE-0-3C18 2F8EF-2F8EF-0-6B21",
   "2F8F0-2F8F0-0-238A7 2F8F1-2F8F1-0-6B54 2F8F2-2F8F2-0-3C4E 2F8F3-2F8F3-0-6B72",
   "2F8F4-2F8F4-0-6B9F 2F8F5-2F8F6-1-6BBA 2F8F7-2F8F7-0-23A8D 2F8F8-2F8F8-0-21D0B",
   "2F8F9-2F8F9-0-23AFA 2F8FA-2F8FA-0-6C4E 2F8FB-2F8FB-0-23CBC 2F8FC-2F8FC-0-6CBF",
   "2F8FD-2F8FD-0-6CCD 2F8FE-2F8FE-0-6C67 2F8FF-2F8FF-0-6D16 2F900-2F900-0-6D3E 2F901-2F901-0-6D77",
   "2F902-2F902-0-6D41 2F903-2F903-0-6D69 2F904-2F904-0-6D78 2F905-2F905-0-6D85",
   "2F906-2F906-0-23D1E 2F907-2F907-0-6D34 2F908-2F908-0-6E2F 2F909-2F909-0-6E6E",
   "2F90A-2F90A-0-3D33 2F90B-2F90B-0-6ECB 2F90C-2F90C-0-6EC7 2F90D-2F90D-0-23ED1",
   "2F90E-2F90E-0-6DF9 2F90F-2F90F-0-6F6E 2F910-2F910-0-23F5E 2F911-2F911-0-23F8E",
   "2F912-2F912-0-6FC6 2F913-2F913-0-7039 2F914-2F914-0-701E 2F915-2F915-0-701B 2F916-2F916-0-3D96",
   "2F917-2F917-0-704A 2F918-2F918-0-707D 2F919-2F919-0-7077 2F91A-2F91A-0-70AD",
   "2F91B-2F91B-0-20525 2F91C-2F91C-0-7145 2F91D-2F91D-0-24263 2F91E-2F91E-0-719C",
   "2F91F-2F91F-0-243AB 2F920-2F920-0-7228 2F921-2F921-0-7235 2F922-2F922-0-7250",
   "2F923-2F923-0-24608 2F924-2F924-0-7280 2F925-2F925-0-7295 2F926-2F926-0-24735",
   "2F927-2F927-0-24814 2F928-2F928-0-737A 2F929-2F929-0-738B 2F92A-2F92A-0-3EAC",
   "2F92B-2F92B-0-73A5 2F92C-2F92D-0-3EB8 2F92E-2F92E-0-7447 2F92F-2F92F-0-745C 2F930-2F930-0-7471",
   "2F931-2F931-0-7485 2F932-2F932-0-74CA 2F933-2F933-0-3F1B 2F934-2F934-0-7524",
   "2F935-2F935-0-24C36 2F936-2F936-0-753E 2F937-2F937-0-24C92 2F938-2F938-0-7570",
   "2F939-2F939-0-2219F 2F93A-2F93A-0-7610 2F93B-2F93B-0-24FA1 2F93C-2F93C-0-24FB8",
   "2F93D-2F93D-0-25044 2F93E-2F93E-0-3FFC 2F93F-2F93F-0-4008 2F940-2F940-0-76F4",
   "2F941-2F941-0-250F3 2F942-2F942-0-250F2 2F943-2F943-0-25119 2F944-2F944-0-25133",
   "2F945-2F946-1-771E 2F947-2F947-0-771F 2F948-2F948-0-774A 2F949-2F949-0-4039 2F94A-2F94A-0-778B",
   "2F94B-2F94B-0-4046 2F94C-2F94C-0-4096 2F94D-2F94D-0-2541D 2F94E-2F94E-0-784E",
   "2F94F-2F94F-0-788C 2F950-2F950-0-78CC 2F951-2F951-0-40E3 2F952-2F952-0-25626",
   "2F953-2F953-0-7956 2F954-2F954-0-2569A 2F955-2F955-0-256C5 2F956-2F956-0-798F",
   "2F957-2F957-0-79EB 2F958-2F958-0-412F 2F959-2F959-0-7A40 2F95A-2F95A-0-7A4A 2F95B-2F95B-0-7A4F",
   "2F95C-2F95C-0-2597C 2F95D-2F95E-0-25AA7 2F95F-2F95F-0-7AEE 2F960-2F960-0-4202",
   "2F961-2F961-0-25BAB 2F962-2F962-0-7BC6 2F963-2F963-0-7BC9 2F964-2F964-0-4227",
   "2F965-2F965-0-25C80 2F966-2F966-0-7CD2 2F967-2F967-0-42A0 2F968-2F968-0-7CE8",
   "2F969-2F969-0-7CE3 2F96A-2F96A-0-7D00 2F96B-2F96B-0-25F86 2F96C-2F96C-0-7D63",
   "2F96D-2F96D-0-4301 2F96E-2F96E-0-7DC7 2F96F-2F96F-0-7E02 2F970-2F970-0-7E45 2F971-2F971-0-4334",
   "2F972-2F972-0-26228 2F973-2F973-0-26247 2F974-2F974-0-4359 2F975-2F975-0-262D9",
   "2F976-2F976-0-7F7A 2F977-2F977-0-2633E 2F978-2F978-0-7F95 2F979-2F979-0-7FFA",
   "2F97A-2F97A-0-8005 2F97B-2F97B-0-264DA 2F97C-2F97C-0-26523 2F97D-2F97D-0-8060",
   "2F97E-2F97E-0-265A8 2F97F-2F97F-0-8070 2F980-2F980-0-2335F 2F981-2F981-0-43D5",
   "2F982-2F982-0-80B2 2F983-2F983-0-8103 2F984-2F984-0-440B 2F985-2F985-0-813E 2F986-2F986-0-5AB5",
   "2F987-2F987-0-267A7 2F988-2F988-0-267B5 2F989-2F989-0-23393 2F98A-2F98A-0-2339C",
   "2F98B-2F98B-0-8201 2F98C-2F98C-0-8204 2F98D-2F98D-0-8F9E 2F98E-2F98E-0-446B 2F98F-2F98F-0-8291",
   "2F990-2F990-0-828B 2F991-2F991-0-829D 2F992-2F992-0-52B3 2F993-2F993-0-82B1 2F994-2F994-0-82B3",
   "2F995-2F995-0-82BD 2F996-2F996-0-82E6 2F997-2F997-0-26B3C 2F998-2F998-0-82E5",
   "2F999-2F999-0-831D 2F99A-2F99A-0-8363 2F99B-2F99B-0-83AD 2F99C-2F99C-0-8323 2F99D-2F99D-0-83BD",
   "2F99E-2F99E-0-83E7 2F99F-2F99F-0-8457 2F9A0-2F9A0-0-8353 2F9A1-2F9A1-0-83CA 2F9A2-2F9A2-0-83CC",
   "2F9A3-2F9A3-0-83DC 2F9A4-2F9A4-0-26C36 2F9A5-2F9A5-0-26D6B 2F9A6-2F9A6-0-26CD5",
   "2F9A7-2F9A7-0-452B 2F9A8-2F9A8-0-84F1 2F9A9-2F9A9-0-84F3 2F9AA-2F9AA-0-8516",
   "2F9AB-2F9AB-0-273CA 2F9AC-2F9AC-0-8564 2F9AD-2F9AD-0-26F2C 2F9AE-2F9AE-0-455D",
   "2F9AF-2F9AF-0-4561 2F9B0-2F9B0-0-26FB1 2F9B1-2F9B1-0-270D2 2F9B2-2F9B2-0-456B",
   "2F9B3-2F9B3-0-8650 2F9B4-2F9B4-0-865C 2F9B5-2F9B5-0-8667 2F9B6-2F9B6-0-8669 2F9B7-2F9B7-0-86A9",
   "2F9B8-2F9B8-0-8688 2F9B9-2F9B9-0-870E 2F9BA-2F9BA-0-86E2 2F9BB-2F9BB-0-8779 2F9BC-2F9BC-0-8728",
   "2F9BD-2F9BD-0-876B 2F9BE-2F9BE-0-8786 2F9BF-2F9BF-0-45D7 2F9C0-2F9C0-0-87E1 2F9C1-2F9C1-0-8801",
   "2F9C2-2F9C2-0-45F9 2F9C3-2F9C3-0-8860 2F9C4-2F9C4-0-8863 2F9C5-2F9C5-0-27667",
   "2F9C6-2F9C6-0-88D7 2F9C7-2F9C7-0-88DE 2F9C8-2F9C8-0-4635 2F9C9-2F9C9-0-88FA 2F9CA-2F9CA-0-34BB",
   "2F9CB-2F9CB-0-278AE 2F9CC-2F9CC-0-27966 2F9CD-2F9CD-0-46BE 2F9CE-2F9CE-0-46C7",
   "2F9CF-2F9CF-0-8AA0 2F9D0-2F9D0-0-8AED 2F9D1-2F9D1-0-8B8A 2F9D2-2F9D2-0-8C55",
   "2F9D3-2F9D3-0-27CA8 2F9D4-2F9D4-0-8CAB 2F9D5-2F9D5-0-8CC1 2F9D6-2F9D6-0-8D1B",
   "2F9D7-2F9D7-0-8D77 2F9D8-2F9D8-0-27F2F 2F9D9-2F9D9-0-20804 2F9DA-2F9DA-0-8DCB",
   "2F9DB-2F9DB-0-8DBC 2F9DC-2F9DC-0-8DF0 2F9DD-2F9DD-0-208DE 2F9DE-2F9DE-0-8ED4",
   "2F9DF-2F9DF-0-8F38 2F9E0-2F9E0-0-285D2 2F9E1-2F9E1-0-285ED 2F9E2-2F9E2-0-9094",
   "2F9E3-2F9E3-0-90F1 2F9E4-2F9E4-0-9111 2F9E5-2F9E5-0-2872E 2F9E6-2F9E6-0-911B",
   "2F9E7-2F9E7-0-9238 2F9E8-2F9E9-1-92D7 2F9EA-2F9EA-0-927C 2F9EB-2F9EB-0-93F9 2F9EC-2F9EC-0-9415",
   "2F9ED-2F9ED-0-28BFA 2F9EE-2F9EE-0-958B 2F9EF-2F9EF-0-4995 2F9F0-2F9F0-0-95B7",
   "2F9F1-2F9F1-0-28D77 2F9F2-2F9F2-0-49E6 2F9F3-2F9F3-0-96C3 2F9F4-2F9F4-0-5DB2",
   "2F9F5-2F9F5-0-9723 2F9F6-2F9F6-0-29145 2F9F7-2F9F7-0-2921A 2F9F8-2F9F8-0-4A6E",
   "2F9F9-2F9F9-0-4A76 2F9FA-2F9FA-0-97E0 2F9FB-2F9FB-0-2940A 2F9FC-2F9FC-0-4AB2",
   "2F9FD-2F9FD-0-29496 2F9FE-2F9FF-0-980B 2FA00-2FA00-0-9829 2FA01-2FA01-0-295B6",
   "2FA02-2FA02-0-98E2 2FA03-2FA03-0-4B33 2FA04-2FA04-0-9929 2FA05-2FA05-0-99A7 2FA06-2FA06-0-99C2",
   "2FA07-2FA07-0-99FE 2FA08-2FA08-0-4BCE 2FA09-2FA09-0-29B30 2FA0A-2FA0A-0-9B12",
   "2FA0B-2FA0B-0-9C40 2FA0C-2FA0C-0-9CFD 2FA0D-2FA0D-0-4CCE 2FA0E-2FA0E-0-4CED 2FA0F-2FA0F-0-9D67",
   "2FA10-2FA10-0-2A0CE 2FA11-2FA11-0-4CF8 2FA12-2FA12-0-2A105 2FA13-2FA13-0-2A20E",
   "2FA14-2FA14-0-2A291 2FA15-2FA15-0-9EBB 2FA16-2FA16-0-4D56 2FA17-2FA17-0-9EF9",
   "2FA18-2FA18-0-9EFE 2FA19-2FA19-0-9F05 2FA1A-2FA1A-0-9F0F 2FA1B-2FA1B-0-9F16 2FA1C-2FA1C-0-9F3B",
   "2FA1D-2FA1D-0-2A600 E0100-E01EF-0-"]

structure MappingEntry where
  first : Nat
  last : Nat
  step : Nat
  image : List Nat

def MappingEntry.covers (e : MappingEntry) (n : Nat) : Bool :=
  e.first ≤ n && n ≤ e.last && (e.step == 0 || (n - e.first) % e.step == 0)

def MappingEntry.apply (e : MappingEntry) (n : Nat) : List Nat :=
  if e.step == 0 then e.image else e.image.map (· + (n - e.first))

def mappingEntryOf : List (List Char) → MappingEntry
  | [first, last, step, image] =>
    let codes := (Text.split '.' image).filter (!·.isEmpty)
    ⟨Text.readHex first, Text.readHex last, Text.readHex step, codes.map Text.readHex⟩
  | _ => ⟨1, 0, 0, []⟩

def mapping : List MappingEntry := (Text.tableEntries mappingLines).map mappingEntryOf

def image? (c : Char) : Option (List Char) :=
  (mapping.find? (·.covers c.toNat)).map fun e => (e.apply c.toNat).map Char.ofNat

end KeyApproval.Domain

import TensorLang.Text.Decomposition

/-!
# Grapheme and width classes

Tables of the Unicode character database, version 15: how code points join into user-perceived
characters, which ones are pictographs, which take two columns on a terminal, and which are
combining marks by name. Hangul syllables follow a formula and are left out of the first table.
-/

namespace TensorLang.Text

/-- Ranges of grapheme classes, `first-last=class`: 1 control, 2 extending, 3 joiner, 4 prepended, 5
spacing mark, 6 leading, 7 vowel and 8 trailing consonant of Hangul, 9 regional indicator, A
carriage return, B newline. -/
def graphemeClasses : Array ((Nat × Nat) × List Nat) := readMappings
  ["0-9=1 A=B B-C=1 D=A E-1F=1 7F-9F=1 AD=1 300-36F=2 483-489=2 591-5BD=2 5BF=2 5C1-5C2=2",
   "5C4-5C5=2 5C7=2 600-605=4 610-61A=2 61C=1 64B-65F=2 670=2 6D6-6DC=2 6DD=4 6DF-6E4=2",
   "6E7-6E8=2 6EA-6ED=2 70F=4 711=2 730-74A=2 7A6-7B0=2 7EB-7F3=2 7FD=2 816-819=2 81B-823=2",
   "825-827=2 829-82D=2 859-85B=2 890-891=4 898-89F=2 8CA-8E1=2 8E2=4 8E3-902=2 903=5 93A=2",
   "93B=5 93C=2 93E-940=5 941-948=2 949-94C=5 94D=2 94E-94F=5 951-957=2 962-963=2 981=2",
   "982-983=5 9BC=2 9BE=2 9BF-9C0=5 9C1-9C4=2 9C7-9C8=5 9CB-9CC=5 9CD=2 9D7=2 9E2-9E3=2 9FE=2",
   "A01-A02=2 A03=5 A3C=2 A3E-A40=5 A41-A42=2 A47-A48=2 A4B-A4D=2 A51=2 A70-A71=2 A75=2",
   "A81-A82=2 A83=5 ABC=2 ABE-AC0=5 AC1-AC5=2 AC7-AC8=2 AC9=5 ACB-ACC=5 ACD=2 AE2-AE3=2",
   "AFA-AFF=2 B01=2 B02-B03=5 B3C=2 B3E-B3F=2 B40=5 B41-B44=2 B47-B48=5 B4B-B4C=5 B4D=2",
   "B55-B57=2 B62-B63=2 B82=2 BBE=2 BBF=5 BC0=2 BC1-BC2=5 BC6-BC8=5 BCA-BCC=5 BCD=2 BD7=2 C00=2",
   "C01-C03=5 C04=2 C3C=2 C3E-C40=2 C41-C44=5 C46-C48=2 C4A-C4D=2 C55-C56=2 C62-C63=2 C81=2",
   "C82-C83=5 CBC=2 CBE=5 CBF=2 CC0-CC1=5 CC2=2 CC3-CC4=5 CC6=2 CC7-CC8=5 CCA-CCB=5 CCC-CCD=2",
   "CD5-CD6=2 CE2-CE3=2 CF3=5 D00-D01=2 D02-D03=5 D3B-D3C=2 D3E=2 D3F-D40=5 D41-D44=2 D46-D48=5",
   "D4A-D4C=5 D4D=2 D4E=4 D57=2 D62-D63=2 D81=2 D82-D83=5 DCA=2 DCF=2 DD0-DD1=5 DD2-DD4=2 DD6=2",
   "DD8-DDE=5 DDF=2 DF2-DF3=5 E31=2 E33=5 E34-E3A=2 E47-E4E=2 EB1=2 EB3=5 EB4-EBC=2 EC8-ECE=2",
   "F18-F19=2 F35=2 F37=2 F39=2 F3E-F3F=5 F71-F7E=2 F7F=5 F80-F84=2 F86-F87=2 F8D-F97=2",
   "F99-FBC=2 FC6=2 102D-1030=2 1031=5 1032-1037=2 1039-103A=2 103B-103C=5 103D-103E=2",
   "1056-1057=5 1058-1059=2 105E-1060=2 1071-1074=2 1082=2 1084=5 1085-1086=2 108D=2 109D=2",
   "1100-115F=6 1160-11A7=7 11A8-11FF=8 135D-135F=2 1712-1714=2 1715=5 1732-1733=2 1734=5",
   "1752-1753=2 1772-1773=2 17B4-17B5=2 17B6=5 17B7-17BD=2 17BE-17C5=5 17C6=2 17C7-17C8=5",
   "17C9-17D3=2 17DD=2 180B-180D=2 180E=1 180F=2 1885-1886=2 18A9=2 1920-1922=2 1923-1926=5",
   "1927-1928=2 1929-192B=5 1930-1931=5 1932=2 1933-1938=5 1939-193B=2 1A17-1A18=2 1A19-1A1A=5",
   "1A1B=2 1A55=5 1A56=2 1A57=5 1A58-1A5E=2 1A60=2 1A62=2 1A65-1A6C=2 1A6D-1A72=5 1A73-1A7C=2",
   "1A7F=2 1AB0-1ACE=2 1B00-1B03=2 1B04=5 1B34-1B3A=2 1B3B=5 1B3C=2 1B3D-1B41=5 1B42=2",
   "1B43-1B44=5 1B6B-1B73=2 1B80-1B81=2 1B82=5 1BA1=5 1BA2-1BA5=2 1BA6-1BA7=5 1BA8-1BA9=2 1BAA=5",
   "1BAB-1BAD=2 1BE6=2 1BE7=5 1BE8-1BE9=2 1BEA-1BEC=5 1BED=2 1BEE=5 1BEF-1BF1=2 1BF2-1BF3=5",
   "1C24-1C2B=5 1C2C-1C33=2 1C34-1C35=5 1C36-1C37=2 1CD0-1CD2=2 1CD4-1CE0=2 1CE1=5 1CE2-1CE8=2",
   "1CED=2 1CF4=2 1CF7=5 1CF8-1CF9=2 1DC0-1DFF=2 200B=1 200C=2 200D=3 200E-200F=1 2028-202E=1",
   "2060-206F=1 20D0-20F0=2 2CEF-2CF1=2 2D7F=2 2DE0-2DFF=2 302A-302F=2 3099-309A=2 A66F-A672=2",
   "A674-A67D=2 A69E-A69F=2 A6F0-A6F1=2 A802=2 A806=2 A80B=2 A823-A824=5 A825-A826=2 A827=5",
   "A82C=2 A880-A881=5 A8B4-A8C3=5 A8C4-A8C5=2 A8E0-A8F1=2 A8FF=2 A926-A92D=2 A947-A951=2",
   "A952-A953=5 A960-A97C=6 A980-A982=2 A983=5 A9B3=2 A9B4-A9B5=5 A9B6-A9B9=2 A9BA-A9BB=5",
   "A9BC-A9BD=2 A9BE-A9C0=5 A9E5=2 AA29-AA2E=2 AA2F-AA30=5 AA31-AA32=2 AA33-AA34=5 AA35-AA36=2",
   "AA43=2 AA4C=2 AA4D=5 AA7C=2 AAB0=2 AAB2-AAB4=2 AAB7-AAB8=2 AABE-AABF=2 AAC1=2 AAEB=5",
   "AAEC-AAED=2 AAEE-AAEF=5 AAF5=5 AAF6=2 ABE3-ABE4=5 ABE5=2 ABE6-ABE7=5 ABE8=2 ABE9-ABEA=5",
   "ABEC=5 ABED=2 D7B0-D7C6=7 D7CB-D7FB=8 FB1E=2 FE00-FE0F=2 FE20-FE2F=2 FEFF=1 FF9E-FF9F=2",
   "FFF0-FFFB=1 101FD=2 102E0=2 10376-1037A=2 10A01-10A03=2 10A05-10A06=2 10A0C-10A0F=2",
   "10A38-10A3A=2 10A3F=2 10AE5-10AE6=2 10D24-10D27=2 10EAB-10EAC=2 10EFD-10EFF=2 10F46-10F50=2",
   "10F82-10F85=2 11000=5 11001=2 11002=5 11038-11046=2 11070=2 11073-11074=2 1107F-11081=2",
   "11082=5 110B0-110B2=5 110B3-110B6=2 110B7-110B8=5 110B9-110BA=2 110BD=4 110C2=2 110CD=4",
   "11100-11102=2 11127-1112B=2 1112C=5 1112D-11134=2 11145-11146=5 11173=2 11180-11181=2",
   "11182=5 111B3-111B5=5 111B6-111BE=2 111BF-111C0=5 111C2-111C3=4 111C9-111CC=2 111CE=5",
   "111CF=2 1122C-1122E=5 1122F-11231=2 11232-11233=5 11234=2 11235=5 11236-11237=2 1123E=2",
   "11241=2 112DF=2 112E0-112E2=5 112E3-112EA=2 11300-11301=2 11302-11303=5 1133B-1133C=2",
   "1133E=2 1133F=5 11340=2 11341-11344=5 11347-11348=5 1134B-1134D=5 11357=2 11362-11363=5",
   "11366-1136C=2 11370-11374=2 11435-11437=5 11438-1143F=2 11440-11441=5 11442-11444=2 11445=5",
   "11446=2 1145E=2 114B0=2 114B1-114B2=5 114B3-114B8=2 114B9=5 114BA=2 114BB-114BC=5 114BD=2",
   "114BE=5 114BF-114C0=2 114C1=5 114C2-114C3=2 115AF=2 115B0-115B1=5 115B2-115B5=2",
   "115B8-115BB=5 115BC-115BD=2 115BE=5 115BF-115C0=2 115DC-115DD=2 11630-11632=5 11633-1163A=2",
   "1163B-1163C=5 1163D=2 1163E=5 1163F-11640=2 116AB=2 116AC=5 116AD=2 116AE-116AF=5",
   "116B0-116B5=2 116B6=5 116B7=2 1171D-1171F=2 11722-11725=2 11726=5 11727-1172B=2",
   "1182C-1182E=5 1182F-11837=2 11838=5 11839-1183A=2 11930=2 11931-11935=5 11937-11938=5",
   "1193B-1193C=2 1193D=5 1193E=2 1193F=4 11940=5 11941=4 11942=5 11943=2 119D1-119D3=5",
   "119D4-119D7=2 119DA-119DB=2 119DC-119DF=5 119E0=2 119E4=5 11A01-11A0A=2 11A33-11A38=2",
   "11A39=5 11A3A=4 11A3B-11A3E=2 11A47=2 11A51-11A56=2 11A57-11A58=5 11A59-11A5B=2",
   "11A84-11A89=4 11A8A-11A96=2 11A97=5 11A98-11A99=2 11C2F=5 11C30-11C36=2 11C38-11C3D=2",
   "11C3E=5 11C3F=2 11C92-11CA7=2 11CA9=5 11CAA-11CB0=2 11CB1=5 11CB2-11CB3=2 11CB4=5",
   "11CB5-11CB6=2 11D31-11D36=2 11D3A=2 11D3C-11D3D=2 11D3F-11D45=2 11D46=4 11D47=2",
   "11D8A-11D8E=5 11D90-11D91=2 11D93-11D94=5 11D95=2 11D96=5 11D97=2 11EF3-11EF4=2",
   "11EF5-11EF6=5 11F00-11F01=2 11F02=4 11F03=5 11F34-11F35=5 11F36-11F3A=2 11F3E-11F3F=5",
   "11F40=2 11F41=5 11F42=2 13430-1343F=1 13440=2 13447-13455=2 16AF0-16AF4=2 16B30-16B36=2",
   "16F4F=2 16F51-16F87=5 16F8F-16F92=2 16FE4=2 16FF0-16FF1=5 1BC9D-1BC9E=2 1BCA0-1BCA3=1",
   "1CF00-1CF2D=2 1CF30-1CF46=2 1D165=2 1D166=5 1D167-1D169=2 1D16D=5 1D16E-1D172=2",
   "1D173-1D17A=1 1D17B-1D182=2 1D185-1D18B=2 1D1AA-1D1AD=2 1D242-1D244=2 1DA00-1DA36=2",
   "1DA3B-1DA6C=2 1DA75=2 1DA84=2 1DA9B-1DA9F=2 1DAA1-1DAAF=2 1E000-1E006=2 1E008-1E018=2",
   "1E01B-1E021=2 1E023-1E024=2 1E026-1E02A=2 1E08F=2 1E130-1E136=2 1E2AE=2 1E2EC-1E2EF=2",
   "1E4EC-1E4EF=2 1E8D0-1E8D6=2 1E944-1E94A=2 1F1E6-1F1FF=9 1F3FB-1F3FF=2 E0000-E001F=1",
   "E0020-E007F=2 E0080-E00FF=1 E0100-E01EF=2 E01F0-E0FFF=1"]

/-- Pictographs. -/
def pictographs : CodeRanges := CodeRanges.ofLines
  ["A9 AE 203C 2049 2122 2139 2194-2199 21A9-21AA 231A-231B 2328 2388 23CF 23E9-23F3 23F8-23FA",
   "24C2 25AA-25AB 25B6 25C0 25FB-25FE 2600-2605 2607-2612 2614-2685 2690-2705 2708-2712 2714",
   "2716 271D 2721 2728 2733-2734 2744 2747 274C 274E 2753-2755 2757 2763-2767 2795-2797 27A1",
   "27B0 27BF 2934-2935 2B05-2B07 2B1B-2B1C 2B50 2B55 3030 303D 3297 3299 1F000-1F0FF",
   "1F10D-1F10F 1F12F 1F16C-1F171 1F17E-1F17F 1F18E 1F191-1F19A 1F1AD-1F1E5 1F201-1F20F 1F21A",
   "1F22F 1F232-1F23A 1F23C-1F23F 1F249-1F3FA 1F400-1F53D 1F546-1F64F 1F680-1F6FF 1F774-1F77F",
   "1F7D5-1F7FF 1F80C-1F80F 1F848-1F84F 1F85A-1F85F 1F888-1F88F 1F8AE-1F8FF 1F90C-1F93A",
   "1F93C-1F945 1F947-1FAFF 1FC00-1FFFD"]

/-- Code points that take two columns. -/
def wideRanges : CodeRanges := CodeRanges.ofLines
  ["1100-115F 231A-231B 2329-232A 23E9-23EC 23F0 23F3 25FD-25FE 2614-2615 2648-2653 267F 2693",
   "26A1 26AA-26AB 26BD-26BE 26C4-26C5 26CE 26D4 26EA 26F2-26F3 26F5 26FA 26FD 2705 270A-270B",
   "2728 274C 274E 2753-2755 2757 2795-2797 27B0 27BF 2B1B-2B1C 2B50 2B55 2E80-2E99 2E9B-2EF3",
   "2F00-2FD5 2FF0-2FFB 3000-303E 3041-3096 3099-30FF 3105-312F 3131-318E 3190-31E3 31F0-321E",
   "3220-3247 3250-4DBF 4E00-A48C A490-A4C6 A960-A97C AC00-D7A3 F900-FAFF FE10-FE19 FE30-FE52",
   "FE54-FE66 FE68-FE6B FF01-FF60 FFE0-FFE6 16FE0-16FE4 16FF0-16FF1 17000-187F7 18800-18CD5",
   "18D00-18D08 1AFF0-1AFF3 1AFF5-1AFFB 1AFFD-1AFFE 1B000-1B122 1B132 1B150-1B152 1B155",
   "1B164-1B167 1B170-1B2FB 1F004 1F0CF 1F18E 1F191-1F19A 1F200-1F202 1F210-1F23B 1F240-1F248",
   "1F250-1F251 1F260-1F265 1F300-1F320 1F32D-1F335 1F337-1F37C 1F37E-1F393 1F3A0-1F3CA",
   "1F3CF-1F3D3 1F3E0-1F3F0 1F3F4 1F3F8-1F43E 1F440 1F442-1F4FC 1F4FF-1F53D 1F54B-1F54E",
   "1F550-1F567 1F57A 1F595-1F596 1F5A4 1F5FB-1F64F 1F680-1F6C5 1F6CC 1F6D0-1F6D2 1F6D5-1F6D7",
   "1F6DC-1F6DF 1F6EB-1F6EC 1F6F4-1F6FC 1F7E0-1F7EB 1F7F0 1F90C-1F93A 1F93C-1F945 1F947-1F9FF",
   "1FA70-1FA7C 1FA80-1FA88 1FA90-1FABD 1FABF-1FAC5 1FACE-1FADB 1FAE0-1FAE8 1FAF0-1FAF8",
   "20000-2FFFD 30000-3FFFD"]

/-- Marks that take no column of their own. -/
def combiningRanges : CodeRanges := CodeRanges.ofLines
  ["300-36F 483-489 7EB-7F3 C00 C04 CF3 D00-D01 135D-135F 1A7F 1AB0-1ACE 1B6B-1B73 1DC0-1DFF",
   "20D0-20F0 2CEF-2CF1 2DE0-2DFF 3099-309A A66F-A672 A674-A67D A69E-A69F A6F0-A6F1 A8E0-A8F1",
   "FE20-FE2F 101FD 10376-1037A 10EAB-10EAC 10F46-10F50 10F82-10F85 11300-11301 1133B-1133C",
   "11366-1136C 11370-11374 16AF0-16AF4 1CF00-1CF2D 1CF30-1CF46 1D165-1D169 1D16D-1D172",
   "1D17B-1D182 1D185-1D18B 1D1AA-1D1AD 1D242-1D244 1E000-1E006 1E008-1E018 1E01B-1E021",
   "1E023-1E024 1E026-1E02A 1E08F 1E8D0-1E8D6"]

/-- Code points beyond Latin-1 that are not printed at all. -/
def invisibleRanges : CodeRanges := CodeRanges.ofLines
  ["70F 180B-180E 200B-200F 2028-202E 206A-206F D800-DFFF FEFF FFF9-FFFB FFFE-FFFF"]

end TensorLang.Text

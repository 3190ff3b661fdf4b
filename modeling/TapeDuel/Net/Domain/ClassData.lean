import TapeDuel.Text.Packed

/-!
# Classes of characters in domain names

Which characters are marks, which ones are written from right to left, and how the
letters of cursive scripts join.
-/

namespace TapeDuel.Net.Domain

/-- Ranges of marks; they take no place of their own if the number behind them is
zero. -/
def markRanges : List Nat :=
  Packed.numbers [
    "003000036F0000000483004890000000591005BD00000005BF005BF00000005C1005C200000",
    "005C4005C500000005C7005C700000006100061A000000064B0065F00000006700067000000",
    "006D6006DC00000006DF006E400000006E7006E800000006EA006ED00000007110071100000",
    "007300074A00000007A6007B000000007EB007F300000007FD007FD00000008160081900000",
    "0081B0082300000008250082700000008290082D00000008590085B00000008980089F00000",
    "008CA00902000000090300903000010093A0093A000000093B0093B000010093C0093C00000",
    "0093E0094000001009410094800000009490094C000010094D0094D000000094E0094F00001",
    "009510095700000009620096300000009810098100000009820098300001009BC009BC00000",
    "009BE009C000001009C1009C400000009C7009CC00001009CD009CD00000009D7009D700001",
    "009E2009E300000009FE00A020000000A0300A030000100A3C00A3C0000000A3E00A4000001",
    "00A4100A510000000A7000A710000000A7500A750000000A8100A820000000A8300A8300001",
    "00ABC00ABC0000000ABE00AC00000100AC100AC80000000AC900ACC0000100ACD00ACD00000",
    "00AE200AE30000000AFA00B010000000B0200B030000100B3C00B3C0000000B3E00B3E00001",
    "00B3F00B3F0000000B4000B400000100B4100B440000000B4700B4C0000100B4D00B5600000",
    "00B5700B570000100B6200B630000000B8200B820000000BBE00BBF0000100BC000BC000000",
    "00BC100BCC0000100BCD00BCD0000000BD700BD70000100C0000C000000000C0100C0300001",
    "00C0400C040000000C3C00C3C0000000C3E00C400000000C4100C440000100C4600C5600000",
    "00C6200C630000000C8100C810000000C8200C830000100CBC00CBC0000000CBE00CBE00001",
    "00CBF00CBF0000000CC000CC40000100CC600CC60000000CC700CCB0000100CCC00CCD00000",
    "00CD500CD60000100CE200CE30000000CF300CF30000100D0000D010000000D0200D0300001",
    "00D3B00D3C0000000D3E00D400000100D4100D440000000D4600D4C0000100D4D00D4D00000",
    "00D5700D570000100D6200D630000000D8100D810000000D8200D830000100DCA00DCA00000",
    "00DCF00DD10000100DD200DD60000000DD800DDF0000100DF200DF30000100E3100E3100000",
    "00E3400E3A0000000E4700E4E0000000EB100EB10000000EB400EBC0000000EC800ECE00000",
    "00F1800F190000000F3500F350000000F3700F370000000F3900F390000000F3E00F3F00001",
    "00F7100F7E0000000F7F00F7F0000100F8000F840000000F8600F870000000F8D00FBC00000",
    "00FC600FC6000000102B0102C000010102D0103000000010310103100001010320103700000",
    "010380103800001010390103A000000103B0103C000010103D0103E00000010560105700001",
    "0105801059000000105E0106000000010620106400001010670106D00001010710107400000",
    "010820108200000010830108400001010850108600000010870108C000010108D0108D00000",
    "0108F0108F000010109A0109C000010109D0109D000000135D0135F00000017120171400000",
    "017150171500001017320173300000017340173400001017520175300000017720177300000",
    "017B6017B600001017B7017BD00000017BE017C500001017C6017C600000017C7017C800001",
    "017C9017D300000017DD017DD00000018850188600000018A9018A900000019200192200000",
    "019230192600001019270192800000019290193100001019320193200000019330193800001",
    "019390193B0000001A1701A180000001A1901A1A0000101A1B01A1B0000001A5501A5500001",
    "01A5601A560000001A5701A570000101A5801A600000001A6101A610000101A6201A6200000",
    "01A6301A640000101A6501A6C0000001A6D01A720000101A7301A7F0000001AB001ACE00000",
    "01B0001B030000001B0401B040000101B3401B340000001B3501B350000101B3601B3A00000",
    "01B3B01B3B0000101B3C01B3C0000001B3D01B410000101B4201B420000001B4301B4400001",
    "01B6B01B730000001B8001B810000001B8201B820000101BA101BA10000101BA201BA500000",
    "01BA601BA70000101BA801BA90000001BAA01BAA0000101BAB01BAD0000001BE601BE600000",
    "01BE701BE70000101BE801BE90000001BEA01BEC0000101BED01BED0000001BEE01BEE00001",
    "01BEF01BF10000001BF201BF30000101C2401C2B0000101C2C01C330000001C3401C3500001",
    "01C3601C370000001CD001CD20000001CD401CE00000001CE101CE10000101CE201CE800000",
    "01CED01CED0000001CF401CF40000001CF701CF70000101CF801CF90000001DC001DFF00000",
    "020D0020F00000002CEF02CF10000002D7F02D7F0000002DE002DFF000000302A0302D00000",
    "0302E0302F00001030990309A000000A66F0A672000000A6740A67D000000A69E0A69F00000",
    "0A6F00A6F1000000A8020A802000000A8060A806000000A80B0A80B000000A8230A82400001",
    "0A8250A826000000A8270A827000010A82C0A82C000000A8800A881000010A8B40A8C300001",
    "0A8C40A8C5000000A8E00A8F1000000A8FF0A8FF000000A9260A92D000000A9470A95100000",
    "0A9520A953000010A9800A982000000A9830A983000010A9B30A9B3000000A9B40A9B500001",
    "0A9B60A9B9000000A9BA0A9BB000010A9BC0A9BD000000A9BE0A9C0000010A9E50A9E500000",
    "0AA290AA2E000000AA2F0AA30000010AA310AA32000000AA330AA34000010AA350AA3600000",
    "0AA430AA43000000AA4C0AA4C000000AA4D0AA4D000010AA7B0AA7B000010AA7C0AA7C00000",
    "0AA7D0AA7D000010AAB00AAB0000000AAB20AAB4000000AAB70AAB8000000AABE0AABF00000",
    "0AAC10AAC1000000AAEB0AAEB000010AAEC0AAED000000AAEE0AAEF000010AAF50AAF500001",
    "0AAF60AAF6000000ABE30ABE4000010ABE50ABE5000000ABE60ABE7000010ABE80ABE800000",
    "0ABE90ABEA000010ABEC0ABEC000010ABED0ABED000000FB1E0FB1E000000FE200FE2F00000",
    "101FD101FD00000102E0102E000000103761037A0000010A0110A0F0000010A3810A3F00000",
    "10AE510AE60000010D2410D270000010EAB10EAC0000010EFD10EFF0000010F4610F5000000",
    "10F8210F8500000110001100000001110011100100000110021100200001110381104600000",
    "1107011070000001107311074000001107F1108100000110821108200001110B0110B200001",
    "110B3110B600000110B7110B800001110B9110BA00000110C2110C200000111001110200000",
    "111271112B000001112C1112C000011112D1113400000111451114600001111731117300000",
    "111801118100000111821118200001111B3111B500001111B6111BE00000111BF111C000001",
    "111C9111CC00000111CE111CE00001111CF111CF000001122C1122E000011122F1123100000",
    "1123211233000011123411234000001123511235000011123611237000001123E1123E00000",
    "112411124100000112DF112DF00000112E0112E200001112E3112EA00000113001130100000",
    "1130211303000011133B1133C000001133E1133F00001113401134000000113411134D00001",
    "113571135700001113621136300001113661137400000114351143700001114381143F00000",
    "1144011441000011144211444000001144511445000011144611446000001145E1145E00000",
    "114B0114B200001114B3114B800000114B9114B900001114BA114BA00000114BB114BE00001",
    "114BF114C000000114C1114C100001114C2114C300000115AF115B100001115B2115B500000",
    "115B8115BB00001115BC115BD00000115BE115BE00001115BF115C000000115DC115DD00000",
    "116301163200001116331163A000001163B1163C000011163D1163D000001163E1163E00001",
    "1163F1164000000116AB116AB00000116AC116AC00001116AD116AD00000116AE116AF00001",
    "116B0116B500000116B6116B600001116B7116B7000001171D1171F00000117201172100001",
    "117221172500000117261172600001117271172B000001182C1182E000011182F1183700000",
    "118381183800001118391183A000001193011938000011193B1193C000001193D1193D00001",
    "1193E1193E00000119401194000001119421194200001119431194300000119D1119D300001",
    "119D4119DB00000119DC119DF00001119E0119E000000119E4119E40000111A0111A0A00000",
    "11A3311A380000011A3911A390000111A3B11A3E0000011A4711A470000011A5111A5600000",
    "11A5711A580000111A5911A5B0000011A8A11A960000011A9711A970000111A9811A9900000",
    "11C2F11C2F0000111C3011C3D0000011C3E11C3E0000111C3F11C3F0000011C9211CA700000",
    "11CA911CA90000111CAA11CB00000011CB111CB10000111CB211CB30000011CB411CB400001",
    "11CB511CB60000011D3111D450000011D4711D470000011D8A11D8E0000111D9011D9100000",
    "11D9311D940000111D9511D950000011D9611D960000111D9711D970000011EF311EF400000",
    "11EF511EF60000111F0011F010000011F0311F030000111F3411F350000111F3611F3A00000",
    "11F3E11F3F0000111F4011F400000011F4111F410000111F4211F4200000134401344000000",
    "13447134550000016AF016AF40000016B3016B360000016F4F16F4F0000016F5116F8700001",
    "16F8F16F920000016FE416FE40000016FF016FF1000011BC9D1BC9E000001CF001CF4600000",
    "1D1651D166000011D1671D169000001D16D1D172000011D17B1D182000001D1851D18B00000",
    "1D1AA1D1AD000001D2421D244000001DA001DA36000001DA3B1DA6C000001DA751DA7500000",
    "1DA841DA84000001DA9B1DAAF000001E0001E08F000001E1301E136000001E2AE1E2AE00000",
    "1E2EC1E2EF000001E4EC1E4EF000001E8D01E8D6000001E9441E94A00000"]

/-- Ranges of characters that are not written from left to right: letters from right
to left (1), digits among these (2), other digits (3), and what takes the direction of
its neighbours (4). -/
def directionRanges : List Nat :=
  Packed.numbers [
    "0002D0002E00004000300003900003000A1000D700004000F7000F700004002B9002BA00004",
    "002C2002CF00004002D2002ED00004002EF002FF00004003750037500004003F6003F600004",
    "0058A0058F00004005BE005BE00001005C0005C000001005C3005C300001005C6005C600001",
    "005D0005F400001006060060700004006080060800001006090060A000040060B0060B00001",
    "0060C0060C000040060D0060D000010060E0060F000040061B0064A00001006600066900002",
    "0066A0066A000040066B0066C000020066D0066F0000100671006D500001006DE006DE00004",
    "006E5006E600001006E9006E900004006EE006EF00001006F0006F900003006FA0071000001",
    "007120072F000010074D007A500001007B1007EA00001007F4007F500001007F6007F900004",
    "007FA007FA00001007FE00815000010081A0081A00001008240082400001008280082800001",
    "0083000858000010085E0088E00001008A0008C900001009F2009F300004009FB009FB00004",
    "00AF100AF10000400BF300BFA0000400C7800C7E0000400E3F00E3F0000400F3A00F3D00004",
    "0139001399000040140001400000040169B0169C00004017DB017DB00004017F00180A00004",
    "019400194500004019DE019FF000040200C020C000004021040214D000040218A0233500004",
    "0237B023940000402396024260000402440026AB00004026AD027FF000040290002B9500004",
    "02B9702BFF0000402CE502CEA0000402CF902CFF0000402E000300400004030080302000004",
    "0303003030000040303703037000040303D0303F00004030A0030A000004030FB030FB00004",
    "031C0031E30000404DC004DFF000040A4900A4C6000040A60D0A60F000040A6730A67300004",
    "0A67E0A67F000040A7000A721000040A7880A788000040A8280A82B000040A8380A83900004",
    "0A8740A877000040AB6A0AB6B000040FBB20FBC2000010FD3E0FD4F000040FDCF0FDFF00004",
    "0FE450FE46000040FE730FE7300001101011010100004101401018C0000410190101A000004",
    "102E1102FB00003108001091B000011091F1091F00004109201093F000011098010A0000001",
    "10A1010A350000110A4010AE40000110AEB10B350000110B3910B3F0000410B4010D2300001",
    "10D3010D390000210E6010E7E0000210E8010EA90000110EAD10EB10000110F0010F4500001",
    "10F5110F810000110F8610FF600001110521106500004116601166C0000411FD511FF100004",
    "16FE216FE2000041D1E91D241000041D2451D245000041D3001D356000041E2FF1E2FF00004",
    "1E8001E8CF000011E9221E943000011E94B1ED3D000011EEF01F12F000041F16D1F16F00004",
    "1F1AD1F1AD000041F2601F6D7000041F6DC1F776000041F77B1F8B1000041F9001FA5300004",
    "1FA601FA88000041FA901FABD000041FABF1FAC5000041FACE1FADB000041FAE01FAE800004",
    "1FAF01FBCA00004"]

/-- Ranges of letters that join what stands behind them (0), what stands on both sides
(1), or what stands before them (2). -/
def joiningRanges : List Nat :=
  Packed.numbers [
    "006200062000001006220062500002006260062600001006270062700002006280062800001",
    "0062900629000020062A0062E000010062F0063200002006330063F00001006410064700001",
    "006480064800002006490064A000010066E0066F00001006710067300002006790068700001",
    "0068800699000020069A006BF00001006C0006C000002006C1006C200001006C3006CB00002",
    "006CC006CC00001006CD006CD00002006CE006CE00001006CF006CF00002006D0006D100001",
    "006D2006D300002006D5006D500002006EE006EF00002006FA006FC00001006FF006FF00001",
    "0071000710000020071200714000010071500719000020071A0071D000010071E0071E00002",
    "0071F00727000010072800728000020072900729000010072A0072A000020072B0072B00001",
    "0072C0072C000020072D0072E000010072F0072F000020074D0074D000020074E0075800001",
    "007590075B000020075C0076A000010076B0076C000020076D0077000001007710077100002",
    "0077200772000010077300774000020077500777000010077800779000020077A0077F00001",
    "007CA007EA00001008400084000002008410084500001008460084700002008480084800001",
    "0084900849000020084A0085300001008540085400002008550085500001008560085800002",
    "008600086000001008620086500001008670086700002008680086800001008690088200002",
    "008860088600001008890088D000010088E0088E000020088F0088F00001008A0008A900001",
    "008AA008AC00002008AE008AE00002008AF008B000001008B1008B200002008B3008B800001",
    "008B9008B900002008BA008C80000101807018070000101820018780000101887018A800001",
    "018AA018AA000010A8400A871000010A8720A8720000010AC010AC40000110AC510AC500002",
    "10AC710AC70000210AC910ACA0000210ACD10ACD0000010ACE10AD20000210AD310AD600001",
    "10AD710AD70000010AD810ADC0000110ADD10ADD0000210ADE10AE00000110AE110AE100002",
    "10AE410AE40000210AEB10AEE0000110AEF10AEF0000210B8010B800000110B8110B8100002",
    "10B8210B820000110B8310B850000210B8610B880000110B8910B890000210B8A10B8B00001",
    "10B8C10B8C0000210B8D10B8D0000110B8E10B8F0000210B9010B900000110B9110B9100002",
    "10BA910BAC0000210BAD10BAE0000110D0010D000000010D0110D210000110D2210D2200002",
    "10D2310D230000110EC210EC20000210EC310EC40000110EC610EC70000110F3010F3200001",
    "10F3310F330000210F3410F440000110F5110F530000110F5410F540000210F7010F7300001",
    "10F7410F750000210F7610F810000110FB010FB00000110FB210FB30000110FB410FB600002",
    "10FB810FB80000110FB910FBA0000210FBB10FBC0000110FBD10FBD0000210FBE10FBF00001",
    "10FC110FC10000110FC210FC30000210FC410FC40000110FC910FC90000210FCA10FCA00001",
    "10FCB10FCB000001E9221E94300001"]

end TapeDuel.Net.Domain

import TapeDuel.Text.Packed

/-!
# The mapping of characters in domain names

Which characters of a domain name stand for others, which count for nothing, and which
are refused. Of ASCII, only letters, digits and hyphens may stand in the labels of a
name.
-/

namespace TapeDuel.Net.Domain

/-- Runs of characters that stand for a run of others: the first one, how many there
are, the step between them, and what the first one stands for. -/
def shifts : List Nat :=
  Packed.numbers [
    "000410001A0000100061000B2000020000100032000C00001700001000E0000D80000700001000F8",
    "00100000180000200101001340000200002001350013900003000020013A00141000040000200142",
    "0014A00017000020014B0017900003000020017A0018200002000020018300189000020000100256",
    "001A00000300002001A1001B100002000010028A001B30000200002001B4001CD0000800002001CE",
    "001DE0000900002001DF001F80001400002001F90022200009000020022300246000050000200247",
    "002B00000200002000680034000002000010030000370000020000200371003880000300001003AD",
    "0038E0000200001003CD003910001100001003B1003A30000900001003C3003D80000C00002003D9",
    "003FD00003000010037B004000001000001004500041000020000010043000460000110000200461",
    "0048A0001B000020048B004C10000700002004C2004D00003000002004D100531000260000100561",
    "010A0000260000102D00013F80000600001013F001C8300002000010044101C900002B00001010D0",
    "01CBD0000300001010FD01D2E00002000020006201D3100005000020006501D34000040000200068",
    "01D4000002000010007401D4400002000010025001D4800002000010006401D4B00002000010025B",
    "01D5000002000020006D01D54000020000101D1601D5700002000010007401D5D0000300001003B2",
    "01D600000200001003C601D6400002000010007501D660000200001003B201D690000200001003C6",
    "01DA400003000010026801DAE00004000010027201DB300002000010028201DB6000020000100289",
    "01DB900002000010028B01DBC00003000010029001E000004B0000201E0101EA0000300000201EA1",
    "01F08000080000101F0001F18000060000101F1001F28000080000101F2001F38000080000101F30",
    "01F48000060000101F4001F59000040000201F5101F68000080000101F6001FB8000020000101FB0",
    "01FC8000020000201F7201FD8000020000101FD001FE8000020000101FE001FF90000200002003CC",
    "02074000060000100034020800000A00001000300209600004000010006B0209B000020000100073",
    "0210A0000200001000670211300002000020006C021190000300001000700212C000020000100062",
    "02130000020000100065021350000400001005D00214600002000010006402148000020000100069",
    "0216D0000200001000630217D0000200001000630232900002000010300802460000090000100031",
    "024B60001A0000100061024D00001A000010006102C00000300000102C3002C67000030000202C68",
    "02C7E00002000010023F02C80000320000202C8102CEB000020000202CEC03039000020000105344",
    "03131000020000101100031330000200002011AA031370000300001011030313A0000600001011B0",
    "03141000030000101106031450000A00001011090314F00015000010116103165000020000101114",
    "031670000200001011C70317100002000010111D031740000200001011220317800005000010112B",
    "031820000200001011F103184000030000101157031870000200001011840318A000020000101191",
    "03261000020000101102032630000300001011050326700002000010110B0326900005000010110E",
    "032D40000200001030AA032E40000600001030CA032EE0000500001030DE032F50000600001030E8",
    "032FB0000400001030EF0A64000017000020A6410A6800000E000020A6810A72200007000020A723",
    "0A7320001F000020A7330A77900002000020A77A0A77E00005000020A77F0A79000002000020A791",
    "0A7960000A000020A7970A7B400008000020A7B50A7C700002000020A7C80A7CC00008000020A7CD",
    "0AB700005000001013A00FA5200002000010798D0FB220000200001005D30FB240000300001005DB",
    "0FB5800002000020067E0FB5900002000020067E0FB6C0000200002006A40FB6D0000200002006A4",
    "0FB7D0000200001006860FB8400002000020068C0FB8500002000020068C0FB9F0000200001006BA",
    "0FBA50000200001006C00FBAF0000200001006D20FBD90000200002006C60FBDA0000200002006C6",
    "0FE170000200001030160FE390000200001030140FE3B0000200001030100FE3D00002000010300A",
    "0FE3F0000200001030080FE4100004000010300C0FE5D0000200001030140FE80000020000100621",
    "0FE820000200001006220FE840000200001006230FE860000200001006240FE88000020000100625",
    "0FE8C0000200001006260FE8E0000200001006270FE920000200001006280FE94000020000100629",
    "0FE9800002000010062A0FE9C00002000010062B0FEA000002000010062C0FEA400002000010062D",
    "0FEA800002000010062E0FEAA00002000010062F0FEAC0000200001006300FEAE000020000100631",
    "0FEB00000200001006320FEB40000200001006330FEB80000200001006340FEBC000020000100635",
    "0FEC00000200001006360FEC40000200001006370FEC80000200001006380FECC000020000100639",
    "0FED40000200001006410FED80000200001006420FEDC0000200001006430FEE0000020000100644",
    "0FEE40000200001006450FEE80000200001006460FEEC0000200001006470FEEE000020000100648",
    "0FEF00000200001006490FF0D00002000010002D0FF100000A00001000300FF210001A0000100061",
    "0FF410001A00001000610FF5F0000200001029850FF6200002000010300C0FF750000200001030AA",
    "0FF850000600001030CA0FF8F0000500001030DE0FF960000600001030E80FF9E000020000103099",
    "0FFA10000200001011000FFA30000200002011AA0FFA70000300001011030FFAA0000600001011B0",
    "0FFB10000300001011060FFB50000A00001011090FFC20000600001011610FFCA000060000101167",
    "0FFD200006000010116D0FFDA0000300001011730FFE00000200001000A20FFE9000040000102190",
    "10400000280000110428104B00002400001104D81057000013000021059710571000050000210598",
    "1057D0000700002105A41058D0000300002105B4107810000200001002D0107870000200002002A3",
    "1078B000020000100256107990000200001002AA107A3000020000100276107A800002000010027D",
    "107B30000200001002A1107B60000300001001C010C80000330000110CC010D50000160000110D70",
    "118A00002000001118C016E40000200000116E6016EA0000190000116EBB1CCD60001A0000100061",
    "1CCF00000A00001000301D4000001A00001000611D41A0001A00001000611D4340001A0000100061",
    "1D44E0000D00002000611D44F0000300002000621D45700009000020006A1D4680001A0000100061",
    "1D4820001A00001000611D49C0000200002000611D4A500002000010006A1D4A900004000010006E",
    "1D4AE0000800001000731D4B60000400001000611D4BB0000B00002000661D4BE000030000200069",
    "1D4C60000500002000711D4D00001A00001000611D4EA0001A00001000611D504000020000100061",
    "1D5070000400001000641D50D00008000010006A1D5160000700001000731D51E0001A0000100061",
    "1D5380000200001000611D53B0000400001000641D5400000500001000691D54A000070000100073",
    "1D5520001A00001000611D56C0001A00001000611D5860001A00001000611D5A00001A0000100061",
    "1D5BA0001A00001000611D5D40001A00001000611D5EE0001A00001000611D6080001A0000100061",
    "1D6220001A00001000611D63C0001A00001000611D6560001A00001000611D6700001A0000100061",
    "1D68A0001A00001000611D6A80001100001003B11D6BA0000700001003C31D6C20001100001003B1",
    "1D6D40000700001003C31D6E20001100001003B11D6F40000700001003C31D6FC0001100001003B1",
    "1D70E0000700001003C31D71C0001100001003B11D72E0000700001003C31D7360001100001003B1",
    "1D7480000700001003C31D7560001100001003B11D7680000700001003C31D7700001100001003B1",
    "1D7820000700001003C31D7900001100001003B11D7A20000700001003C31D7AA0001100001003B1",
    "1D7BC0000700001003C31D7CE0000A00001000301D7D80000A00001000301D7E20000A0000100030",
    "1D7EC0000A00001000301D7F60000A00001000301E0300000900001004301E03900003000010043A",
    "1E03C0000B000010043E1E04800002000010044D1E0510000900001004301E05A00002000010043A",
    "1E05C00002000010043E1E05F0000600001004431E06500002000010044A1E90000022000011E922",
    "1EE000000200001006271EE0A0000400001006431EE1500002000010062A1EE2A000040000100643",
    "1EE3500002000010062A1EE4B0000200002006441EE6A0000200002006431EE7500002000010062A",
    "1EE800000200001006271EE840000200001006471EE8B0000300001006441EE9500002000010062A",
    "1EEAB0000300001006441EEB500002000010062A1F1300001A00001000611FBF00000A0000100030",
    "2F8290000200001053052F83000002000020537D2F87B000020000221DE42F881000020000105DE1",
    "2F8F5000020000106BBA2F94500002000010771E2F9E80000200001092D7"]

/-- Single characters, each with the one that it stands for. -/
def substitutes : List Nat :=
  Packed.numbers [
    "000AA00061000B5003BC000B900031000BA0006F00178000FF0017F0007300181002530018600254",
    "00187001880018B0018C0018E001DD0018F00259001900025B001910019200193002600019400263",
    "0019600269001970026800198001990019C0026F0019D002720019F00275001A600280001A7001A8",
    "001A900283001AC001AD001AE00288001AF001B0001B700292001B8001B9001BC001BD001F4001F5",
    "001F600195001F7001BF002200019E0023A02C650023B0023C0023D0019A0023E02C660024100242",
    "00243001800024400289002450028C002B100266002B300072002B400279002B50027B002B600281",
    "002B700077002B800079002E000263002E10006C002E200073002E300078002E4002950034300313",
    "00345003B900374002B900376003770037F003F300386003AC00387000B70038C003CC003CF003D7",
    "003D0003B2003D1003B8003D2003C5003D3003CD003D4003CB003D5003C6003D6003C0003F0003BA",
    "003F1003C1003F2003C3003F4003B8003F5003B5003F7003F8003F9003C3003FA003FB004C0004CF",
    "00F0C00F0B010C702D27010CD02D2D010FC010DC01C800043201C810043401C820043E01C8500442",
    "01C860044A01C870046301C880A64B01C8901C8A01D2C0006101D2D000E601D32001DD01D3C0006F",
    "01D3D0022301D3E0007001D3F0007201D420007701D430006101D4601D0201D470006201D4A00259",
    "01D4D0006701D4F0006B01D510014B01D530025401D560007001D5901D1D01D5A0026F01D5B00076",
    "01D5C01D2501D620006901D630007201D68003C101D780043D01D9B0025201D9C0006301D9D00255",
    "01D9E000F001D9F0025C01DA00006601DA10025F01DA20026101DA30026501DA701D7B01DA80029D",
    "01DA90026D01DAA01D8501DAB0029F01DAC0027101DAD0027001DB20027801DB5001AB01DB801D1C",
    "01DBB0007A01DBF003B801E9B01E6101E9E000DF01F71003AC01F73003AD01F75003AE01F77003AF",
    "01F79003CC01F7B003CD01F7D003CE01FBA01F7001FBB003AC01FBE003B901FC9003AD01FCB003AE",
    "01FD30039001FDA01F7601FDB003AF01FE3003B001FEA01F7A01FEB003CD01FEC01FE501FF801F78",
    "01FFA01F7C0201102010020700003002071000690207B022120207F0006E0208B022120209000061",
    "0209100065020920006F0209300078020940025902095000680209A000700210200063021070025B",
    "0210C000680210D000680210E000680210F0012702110000690211100069021120006C0211C00072",
    "0211D00072021240007A02126003C9021280007A0212A0006B0212B000E50212F00065021320214E",
    "021330006D021340006F02139000690213C003C00213D003B30213E003B30213F003C00214002211",
    "02145000640216000069021640007602169000780216C0006C0216F0006D02170000690217400076",
    "02179000780217C0006C0217F0006D0218302184024EA0003002C6002C6102C620026B02C6301D7D",
    "02C640027D02C6D0025102C6E0027102C6F0025002C700025202C7202C7302C7502C7602C7C0006A",
    "02C7D0007602CF202CF302D6F02D6102E9F06BCD02EF309F9F02F0004E0002F0104E2802F0204E36",
    "02F0304E3F02F0404E5902F0504E8502F0604E8C02F0704EA002F0804EBA02F090513F02F0A05165",
    "02F0B0516B02F0C0518202F0D0519602F0E051AB02F0F051E002F10051F502F110520002F120529B",
    "02F13052F902F140531502F150531A02F160533802F170534102F180535C02F190536902F1A05382",
    "02F1B053B602F1C053C802F1D053E302F1E056D702F1F0571F02F20058EB02F210590202F220590A",
    "02F230591502F240592702F250597302F2605B5002F2705B8002F2805BF802F2905C0F02F2A05C22",
    "02F2B05C3802F2C05C6E02F2D05C7102F2E05DDB02F2F05DE502F3005DF102F3105DFE02F3205E72",
    "02F3305E7A02F3405E7F02F3505EF402F3605EFE02F3705F0B02F3805F1302F3905F5002F3A05F61",
    "02F3B05F7302F3C05FC302F3D0620802F3E0623602F3F0624B02F400652F02F410653402F4206587",
    "02F430659702F44065A402F45065B902F46065E002F47065E502F48066F002F490670802F4A06728",
    "02F4B06B2002F4C06B6202F4D06B7902F4E06BB302F4F06BCB02F5006BD402F5106BDB02F5206C0F",
    "02F5306C1402F5406C3402F550706B02F560722A02F570723602F580723B02F590723F02F5A07247",
    "02F5B0725902F5C0725B02F5D072AC02F5E0738402F5F0738902F60074DC02F61074E602F6207518",
    "02F630751F02F640752802F650753002F660758B02F670759202F680767602F690767D02F6A076AE",
    "02F6B076BF02F6C076EE02F6D077DB02F6E077E202F6F077F302F700793A02F71079B802F72079BE",
    "02F7307A7402F7407ACB02F7507AF902F7607C7302F7707CF802F7807F3602F7907F5102F7A07F8A",
    "02F7B07FBD02F7C0800102F7D0800C02F7E0801202F7F0803302F800807F02F810808902F82081E3",
    "02F83081EA02F84081F302F85081FC02F860820C02F870821B02F880821F02F890826E02F8A08272",
    "02F8B0827802F8C0864D02F8D0866B02F8E0884002F8F0884C02F900886302F910897E02F920898B",
    "02F93089D202F9408A0002F9508C3702F9608C4602F9708C5502F9808C7802F9908C9D02F9A08D64",
    "02F9B08D7002F9C08DB302F9D08EAB02F9E08ECA02F9F08F9B02FA008FB002FA108FB502FA209091",
    "02FA30914902FA4091C602FA5091CC02FA6091D102FA70957702FA80958002FA90961C02FAA096B6",
    "02FAB096B902FAC096E802FAD0975102FAE0975E02FAF0976202FB00976902FB1097CB02FB2097ED",
    "02FB3097F302FB40980102FB5098A802FB6098DB02FB7098DF02FB80999602FB90999902FBA099AC",
    "02FBB09AA802FBC09AD802FBD09ADF02FBE09B2502FBF09B2F02FC009B3202FC109B3C02FC209B5A",
    "02FC309CE502FC409E7502FC509E7F02FC609EA502FC709EBB02FC809EC302FC909ECD02FCA09ED1",
    "02FCB09EF902FCC09EFD02FCD09F0E02FCE09F1302FCF09F2002FD009F3B02FD109F4A02FD209F52",
    "02FD309F8D02FD409F9C02FD509FA0030020002E03036030120303805341031340110203136011AD",
    "031400111A031440112103169011CC0316A011CE0316B011D30316C011D70316D011D90316E0111C",
    "0316F011DD03170011DF0317301120031760112703177011290317D011320317E011360317F01140",
    "0318001147031810114C03189011880318C011940318D0119E0318E011A10319204E000319304E8C",
    "0319404E0903195056DB0319604E0A0319704E2D0319804E0B03199075320319A04E590319B04E19",
    "0319C04E010319D059290319E057300319F04EBA032440554F0324505E7C03246065870324707B8F",
    "032600110003266011090326E0AC000326F0B098032700B2E4032710B77C032720B9C8032730BC14",
    "032740C0AC032750C544032760C790032770CC28032780CE74032790D0C00327A0D30C0327B0D558",
    "0327E0C6B00328004E000328104E8C0328204E0903283056DB0328404E94032850516D0328604E03",
    "032870516B0328804E5D03289053410328A067080328B0706B0328C06C340328D067280328E091D1",
    "0328F0571F03290065E5032910682A0329206709032930793E032940540D03295072790329608CA1",
    "032970795D03298052B403299079D80329A075370329B059730329C090690329D0512A0329E05370",
    "0329F06CE8032A009805032A104F11032A205199032A306B63032A404E0A032A504E2D032A604E0B",
    "032A705DE6032A8053F3032A90533B032AA05B97032AB05B66032AC076E3032AD04F01032AE08CC7",
    "032AF05354032B00591C032D0030A2032D1030A4032D2030A6032D3030A8032D6030AD032D7030AF",
    "032D8030B1032D9030B3032DA030B5032DB030B7032DC030B9032DD030BB032DE030BD032DF030BF",
    "032E0030C1032E1030C4032E2030C6032E3030C8032EA030D2032EB030D5032EC030D8032ED030DB",
    "032F3030E4032F4030E60A69C0044A0A69D0044C0A7700A76F0A77D01D790A78B0A78C0A78D00265",
    "0A7AA002660A7AB0025C0A7AC002610A7AD0026C0A7AE0026A0A7B00029E0A7B1002870A7B20029D",
    "0A7B30AB530A7C40A7940A7C5002820A7C601D8E0A7CB002640A7DC0019B0A7F1000730A7F200063",
    "0A7F3000660A7F4000710A7F50A7F60A7F8001270A7F9001530AB5C0A7270AB5D0AB370AB5E0026B",
    "0AB5F0AB520AB690028D0F90008C480F901066F40F90208ECA0F90308CC80F90406ED10F90504E32",
    "0F906053E50F90709F9C0F90809F9C0F909059510F90A091D10F90B055870F90C059480F90D061F6",
    "0F90E076690F90F07F850F9100863F0F911087BA0F912088F80F9130908F0F91406A020F91506D1B",
    "0F916070D90F917073DE0F9180843D0F9190916A0F91A099F10F91B04E820F91C053750F91D06B04",
    "0F91E0721B0F91F0862D0F92009E1E0F92105D500F92206FEB0F923085CD0F924089640F925062C9",
    "0F926081D80F9270881F0F92805ECA0F929067170F92A06D6A0F92B072FC0F92C090CE0F92D04F86",
    "0F92E051B70F92F052DE0F930064C40F93106AD30F932072100F933076E70F934080010F93508606",
    "0F9360865C0F93708DEF0F938097320F93909B6F0F93A09DFA0F93B0788C0F93C0797F0F93D07DA0",
    "0F93E083C90F93F093040F94009E7F0F94108AD60F942058DF0F94305F040F94407C600F9450807E",
    "0F946072620F947078CA0F94808CC20F949096F70F94A058D80F94B05C620F94C06A130F94D06DDA",
    "0F94E06F0F0F94F07D2F0F95007E370F9510964B0F952052D20F9530808B0F954051DC0F955051CC",
    "0F95607A1C0F95707DBE0F958083F10F959096750F95A08B800F95B062CF0F95C06A020F95D08AFE",
    "0F95E04E390F95F05BE70F960060120F961073870F962075700F963053170F964078FB0F96504FBF",
    "0F96605FA90F96704E0D0F96806CCC0F969065780F96A07D220F96B053C30F96C0585E0F96D07701",
    "0F96E084490F96F08AAA0F97006BBA0F97108FB00F97206C880F973062FE0F974082E50F975063A0",
    "0F976075650F97704EAE0F978051690F979051C90F97A068810F97B07CE70F97C0826F0F97D08AD2",
    "0F97E091CF0F97F052F50F980054420F981059730F98205EEC0F983065C50F98406FFE0F9850792A",
    "0F986095AD0F98709A6A0F98809E970F98909ECE0F98A0529B0F98B066C60F98C06B770F98D08F62",
    "0F98E05E740F98F061900F990062000F9910649A0F99206F230F993071490F994074890F995079CA",
    "0F99607DF40F9970806F0F99808F260F999084EE0F99A090230F99B0934A0F99C052170F99D052A3",
    "0F99E054BD0F99F070C80F9A0088C20F9A108AAA0F9A205EC90F9A305FF50F9A40637B0F9A506BAE",
    "0F9A607C3E0F9A7073750F9A804EE40F9A9056F90F9AA05BE70F9AB05DBA0F9AC0601C0F9AD073B2",
    "0F9AE074690F9AF07F9A0F9B0080460F9B1092340F9B2096F60F9B3097480F9B4098180F9B504F8B",
    "0F9B6079AE0F9B7091B40F9B8096B80F9B9060E10F9BA04E860F9BB050DA0F9BC05BEE0F9BD05C3F",
    "0F9BE065990F9BF06A020F9C0071CE0F9C1076420F9C2084FC0F9C30907C0F9C409F8D0F9C506688",
    "0F9C60962E0F9C7052890F9C80677B0F9C9067F30F9CA06D410F9CB06E9C0F9CC074090F9CD07559",
    "0F9CE0786B0F9CF07D100F9D00985E0F9D10516D0F9D20622E0F9D3096780F9D40502B0F9D505D19",
    "0F9D606DEA0F9D708F2A0F9D805F8B0F9D9061440F9DA068170F9DB073870F9DC096860F9DD05229",
    "0F9DE0540F0F9DF05C650F9E0066130F9E10674E0F9E2068A80F9E306CE50F9E4074060F9E5075E2",
    "0F9E607F790F9E7088CF0F9E8088E10F9E9091CC0F9EA096E20F9EB0533F0F9EC06EBA0F9ED0541D",
    "0F9EE071D00F9EF074980F9F0085FA0F9F1096A30F9F209C570F9F309E9F0F9F4067970F9F506DCB",
    "0F9F6081E80F9F707ACB0F9F807B200F9F907C920F9FA072C00F9FB070990F9FC08B580F9FD04EC0",
    "0F9FE083360F9FF0523A0FA00052070FA0105EA60FA02062D30FA0307CD60FA0405B850FA0506D1E",
    "0FA06066B40FA0708F3B0FA080884C0FA090964D0FA0A0898B0FA0B05ED30FA0C051400FA0D055C0",
    "0FA100585A0FA12066740FA15051DE0FA160732A0FA17076CA0FA180793C0FA190795E0FA1A07965",
    "0FA1B0798F0FA1C097560FA1D07CBE0FA1E07FBD0FA20086120FA2208AF80FA25090380FA26090FD",
    "0FA2A098EF0FA2B098FC0FA2C099280FA2D09DB40FA2E090DE0FA2F096B70FA3004FAE0FA31050E7",
    "0FA320514D0FA33052C90FA34052E40FA35053510FA360559D0FA37056060FA38056680FA3905840",
    "0FA3A058A80FA3B05C640FA3C05C6E0FA3D060940FA3E061680FA3F0618E0FA40061F20FA410654F",
    "0FA42065E20FA43066910FA44068850FA4506D770FA4606E1A0FA4706F220FA480716E0FA490722B",
    "0FA4A074220FA4B078910FA4C0793E0FA4D079490FA4E079480FA4F079500FA50079560FA510795D",
    "0FA5407A400FA5507A810FA5607BC00FA5707DF40FA5807E090FA5907E410FA5A07F720FA5B08005",
    "0FA5C081ED0FA5D082790FA5E082790FA5F084570FA60089100FA61089960FA6208B010FA6308B39",
    "0FA6408CD30FA6508D080FA6608FB60FA67090380FA68096E30FA69097FF0FA6A0983B0FA6B06075",
    "0FA6C242EE0FA6D082180FA7004E260FA71051B50FA72051680FA7304F800FA74051450FA7505180",
    "0FA76052C70FA77052FA0FA780559D0FA79055550FA7A055990FA7B055E20FA7C0585A0FA7D058B3",
    "0FA7E059440FA7F059540FA8005A620FA8105B280FA8205ED20FA8305ED90FA8405F690FA8505FAD",
    "0FA86060D80FA870614E0FA88061080FA890618E0FA8A061600FA8B061F20FA8C062340FA8D063C4",
    "0FA8E0641C0FA8F064520FA90065560FA91066740FA92067170FA930671B0FA94067560FA9506B79",
    "0FA9606BBA0FA9706D410FA9806EDB0FA9906ECB0FA9A06F220FA9B0701E0FA9C0716E0FA9D077A7",
    "0FA9E072350FA9F072AF0FAA00732A0FAA1074710FAA2075060FAA30753B0FAA40761D0FAA50761F",
    "0FAA6076CA0FAA7076DB0FAA8076F40FAA90774A0FAAA077400FAAB078CC0FAAC07AB10FAAD07BC0",
    "0FAAE07C7B0FAAF07D5B0FAB007DF40FAB107F3E0FAB2080050FAB3083520FAB4083EF0FAB508779",
    "0FAB6089410FAB7089860FAB8089960FAB908ABF0FABA08AF80FABB08ACB0FABC08B010FABD08AFE",
    "0FABE08AED0FABF08B390FAC008B8A0FAC108D080FAC208F380FAC3090720FAC4091990FAC509276",
    "0FAC60967C0FAC7096E30FAC8097560FAC9097DB0FACA097FF0FACB0980B0FACC0983B0FACD09B12",
    "0FACE09F9C0FACF2284A0FAD0228440FAD1233D50FAD203B9D0FAD3040180FAD4040390FAD525249",
    "0FAD625CD00FAD727ED30FAD809F430FAD909F8E0FB20005E20FB21005D00FB27005E80FB28005EA",
    "0FB50006710FB51006710FB520067B0FB530067B0FB540067B0FB550067B0FB560067E0FB570067E",
    "0FB5C006800FB5D006800FB5E0067A0FB5F0067A0FB600067A0FB610067A0FB620067F0FB630067F",
    "0FB640067F0FB650067F0FB66006790FB67006790FB68006790FB69006790FB6A006A40FB6B006A4",
    "0FB70006A60FB71006A60FB72006840FB73006840FB74006840FB75006840FB76006830FB7700683",
    "0FB78006830FB79006830FB7A006860FB7B006860FB7C006860FB7F006870FB80006870FB8100687",
    "0FB820068D0FB830068D0FB88006880FB89006880FB8A006980FB8B006980FB8C006910FB8D00691",
    "0FB8E006A90FB8F006A90FB90006A90FB91006A90FB92006AF0FB93006AF0FB94006AF0FB95006AF",
    "0FB96006B30FB97006B30FB98006B30FB99006B30FB9A006B10FB9B006B10FB9C006B10FB9D006B1",
    "0FB9E006BA0FBA1006BB0FBA2006BB0FBA3006BB0FBA4006C00FBA7006C10FBA8006C10FBA9006C1",
    "0FBAA006BE0FBAB006BE0FBAC006BE0FBAD006BE0FBAE006D20FBB1006D30FBD3006AD0FBD4006AD",
    "0FBD5006AD0FBD6006AD0FBD7006C70FBD8006C70FBDE006CB0FBDF006CB0FBE0006C50FBE1006C5",
    "0FBE2006C90FBE3006C90FBE4006D00FBE5006D00FBE6006D00FBE7006D00FBE8006490FBE900649",
    "0FBFC006CC0FBFD006CC0FBFE006CC0FBFF006CC0FE11030010FE31020140FE32020130FE5103001",
    "0FE58020140FE630002D0FE8A006260FE8B006260FE90006280FE91006280FE960062A0FE970062A",
    "0FE9A0062B0FE9B0062B0FE9E0062C0FE9F0062C0FEA20062D0FEA30062D0FEA60062E0FEA70062E",
    "0FEB2006330FEB3006330FEB6006340FEB7006340FEBA006350FEBB006350FEBE006360FEBF00636",
    "0FEC2006370FEC3006370FEC6006380FEC7006380FECA006390FECB006390FECE0063A0FECF0063A",
    "0FED00063A0FED1006410FED2006410FED3006410FED6006420FED7006420FEDA006430FEDB00643",
    "0FEDE006440FEDF006440FEE2006450FEE3006450FEE6006460FEE7006460FEEA006470FEEB00647",
    "0FEF20064A0FEF30064A0FEF40064A0FF610002E0FF64030010FF65030FB0FF66030F20FF67030A1",
    "0FF68030A30FF69030A50FF6A030A70FF6B030A90FF6C030E30FF6D030E50FF6E030E70FF6F030C3",
    "0FF70030FC0FF71030A20FF72030A40FF73030A60FF74030A80FF77030AD0FF78030AF0FF79030B1",
    "0FF7A030B30FF7B030B50FF7C030B70FF7D030B90FF7E030BB0FF7F030BD0FF80030BF0FF81030C1",
    "0FF82030C40FF83030C60FF84030C80FF8B030D20FF8C030D50FF8D030D80FF8E030DB0FF94030E4",
    "0FF95030E60FF9C030EF0FF9D030F30FFA4011020FFA6011AD0FFB00111A0FFB4011210FFE2000AC",
    "0FFE4000A60FFE5000A50FFE6020A90FFE8025020FFED025A00FFEE025CB10595105BC10783000E6",
    "10784002991078500253107880AB661078A002A41078D01D911078E002581078F0025E10790002A9",
    "107910026410792002621079300260107940029B1079500127107960029C10797002671079800284",
    "1079B0026C1079C1DF041079D0A78E1079E0026E1079F1DF05107A00028E107A11DF06107A2000F8",
    "107A500071107A60027A107A71DF08107AA00280107AB002A8107AC002A6107AD0AB67107AE002A7",
    "107AF00288107B002C71107B20028F107B500298107B91DF0A107BA1DF1E1D49F000641D4A200067",
    "1D5460006F1D6A4001311D6A5002371D6B9003B81D6C1022071D6D3003C31D6DB022021D6DC003B5",
    "1D6DD003B81D6DE003BA1D6DF003C61D6E0003C11D6E1003C01D6F3003B81D6FB022071D70D003C3",
    "1D715022021D716003B51D717003B81D718003BA1D719003C61D71A003C11D71B003C01D72D003B8",
    "1D735022071D747003C31D74F022021D750003B51D751003B81D752003BA1D753003C61D754003C1",
    "1D755003C01D767003B81D76F022071D781003C31D789022021D78A003B51D78B003B81D78C003BA",
    "1D78D003C61D78E003C11D78F003C01D7A1003B81D7A9022071D7BB003C31D7C3022021D7C4003B5",
    "1D7C5003B81D7C6003BA1D7C7003C61D7C8003C11D7C9003C01D7CA003DD1D7CB003DD1E0470044B",
    "1E04A0A6891E04B004D91E04C004561E04D004581E04E004E91E04F004AF1E050004CF1E05E00441",
    "1E067004911E068004561E069004551E06A0045F1E06B004AB1E06C0A6511E06D004B11EE020062C",
    "1EE030062F1EE05006481EE06006321EE070062D1EE08006371EE090064A1EE0E006331EE0F00639",
    "1EE10006411EE11006351EE12006421EE13006311EE14006341EE170062E1EE18006301EE1900636",
    "1EE1A006381EE1B0063A1EE1C0066E1EE1D006BA1EE1E006A11EE1F0066F1EE21006281EE220062C",
    "1EE24006471EE270062D1EE290064A1EE2E006331EE2F006391EE30006411EE31006351EE3200642",
    "1EE34006341EE370062E1EE39006361EE3B0063A1EE420062C1EE470062D1EE490064A1EE4E00633",
    "1EE4F006391EE51006351EE52006421EE54006341EE570062E1EE59006361EE5B0063A1EE5D006BA",
    "1EE5F0066F1EE61006281EE620062C1EE64006471EE670062D1EE68006371EE690064A1EE6D00646",
    "1EE6E006331EE6F006391EE70006411EE71006351EE72006421EE74006341EE770062E1EE7900636",
    "1EE7A006381EE7B0063A1EE7C0066E1EE7E006A11EE820062C1EE830062F1EE86006321EE870062D",
    "1EE88006371EE890064A1EE8E006331EE8F006391EE90006411EE91006351EE92006421EE9300631",
    "1EE94006341EE970062E1EE98006301EE99006361EE9A006381EE9B0063A1EEA1006281EEA20062C",
    "1EEA30062F1EEA5006481EEA6006321EEA70062D1EEA8006371EEA90064A1EEAE006331EEAF00639",
    "1EEB0006411EEB1006351EEB2006421EEB3006311EEB4006341EEB70062E1EEB8006301EEB900636",
    "1EEBA006381EEBB0063A1F12B000631F12C000721F202030B51F2100624B1F21105B571F212053CC",
    "1F213030C71F21404E8C1F2150591A1F216089E31F217059291F21804EA41F219066201F21A07121",
    "1F21B065991F21C0524D1F21D05F8C1F21E0518D1F21F065B01F2200521D1F22107D421F2220751F",
    "1F22308CA91F224058F01F225054391F22606F141F227062951F228063551F22904E001F22A04E09",
    "1F22B0904A1F22C05DE61F22D04E2D1F22E053F31F22F063071F23008D701F231062531F23207981",
    "1F23307A7A1F234054081F23506E801F236067091F237067081F238075331F239052721F23A055B6",
    "1F23B0914D1F25005F971F251053EF2F80004E3D2F80104E382F80204E412F803201222F80404F60",
    "2F80504FAE2F80604FBB2F807050022F8080507A2F809050992F80A050E72F80B050CF2F80C0349E",
    "2F80D2063A2F80E0514D2F80F051542F810051642F811051772F8122051C2F813034B92F81405167",
    "2F8150518D2F8162054B2F817051972F818051A42F81904ECC2F81A051AC2F81B051B52F81C291DF",
    "2F81D051F52F81E052032F81F034DF2F8200523B2F821052462F822052722F823052772F82403515",
    "2F825052C72F826052C92F827052E42F828052FA2F82B053172F82C053492F82D053512F82E0535A",
    "2F82F053732F8310537F2F8330537F2F83420A2C2F835070702F836053CA2F837053DF2F83820B63",
    "2F839053EB2F83A053F12F83B054062F83C0549E2F83D054382F83E054482F83F054682F840054A2",
    "2F841054F62F842055102F843055532F844055632F845055842F846055842F847055992F848055AB",
    "2F849055B32F84A055C22F84B057162F84C056062F84D057172F84E056512F84F056742F85005207",
    "2F851058EE2F852057CE2F853057F42F8540580D2F8550578B2F856058322F857058312F858058AC",
    "2F859214E42F85A058F22F85B058F72F85C059062F85D0591A2F85E059222F85F059622F860216A8",
    "2F861216EA2F862059EC2F86305A1B2F86405A272F865059D82F86605A662F867036EE2F868036FC",
    "2F86905B082F86A05B3E2F86B05B3E2F86C219C82F86D05BC32F86E05BD82F86F05BE72F87005BF3",
    "2F87121B182F87205BFF2F87305C062F87405F532F87505C222F876037812F87705C602F87805C6E",
    "2F87905CC02F87A05C8D2F87C05D432F87E05D6E2F87F05D6B2F88005D7C2F8830382F2F88405DFD",
    "2F88505E282F88605E3D2F88705E692F888038622F889221832F88A0387C2F88B05EB02F88C05EB3",
    "2F88D05EB62F88E05ECA2F88F2A3922F89005EFE2F891223312F892223312F893082012F89405F22",
    "2F89505F222F896038C72F897232B82F898261DA2F89905F622F89A05F6B2F89B038E32F89C05F9A",
    "2F89D05FCD2F89E05FD72F89F05FF92F8A0060812F8A10393A2F8A20391C2F8A3060942F8A4226D4",
    "2F8A5060C72F8A6061482F8A70614C2F8A80614E2F8A90614C2F8AA0617A2F8AB0618E2F8AC061B2",
    "2F8AD061A42F8AE061AF2F8AF061DE2F8B0061F22F8B1061F62F8B2062102F8B30621B2F8B40625D",
    "2F8B5062B12F8B6062D42F8B7063502F8B822B0C2F8B90633D2F8BA062FC2F8BB063682F8BC06383",
    "2F8BD063E42F8BE22BF12F8BF064222F8C0063C52F8C1063A92F8C203A2E2F8C3064692F8C40647E",
    "2F8C50649D2F8C6064772F8C703A6C2F8C80654F2F8C90656C2F8CA2300A2F8CB065E32F8CC066F8",
    "2F8CD066492F8CE03B192F8CF066912F8D003B082F8D103AE42F8D2051922F8D3051952F8D406700",
    "2F8D50669C2F8D6080AD2F8D7043D92F8D8067172F8D90671B2F8DA067212F8DB0675E2F8DC06753",
    "2F8DD233C32F8DE03B492F8DF067FA2F8E0067852F8E1068522F8E2068852F8E32346D2F8E40688E",
    "2F8E50681F2F8E6069142F8E703B9D2F8E8069422F8E9069A32F8EA069EA2F8EB06AA82F8EC236A3",
    "2F8ED06ADB2F8EE03C182F8EF06B212F8F0238A72F8F106B542F8F203C4E2F8F306B722F8F406B9F",
    "2F8F723A8D2F8F821D0B2F8F923AFA2F8FA06C4E2F8FB23CBC2F8FC06CBF2F8FD06CCD2F8FE06C67",
    "2F8FF06D162F90006D3E2F90106D772F90206D412F90306D692F90406D782F90506D852F90623D1E",
    "2F90706D342F90806E2F2F90906E6E2F90A03D332F90B06ECB2F90C06EC72F90D23ED12F90E06DF9",
    "2F90F06F6E2F91023F5E2F91123F8E2F91206FC62F913070392F9140701E2F9150701B2F91603D96",
    "2F9170704A2F9180707D2F919070772F91A070AD2F91B205252F91C071452F91D242632F91E0719C",
    "2F91F243AB2F920072282F921072352F922072502F923246082F924072802F925072952F92624735",
    "2F927248142F9280737A2F9290738B2F92A03EAC2F92B073A52F92C03EB82F92D03EB82F92E07447",
    "2F92F0745C2F930074712F931074852F932074CA2F93303F1B2F934075242F93524C362F9360753E",
    "2F93724C922F938075702F9392219F2F93A076102F93B24FA12F93C24FB82F93D250442F93E03FFC",
    "2F93F040082F940076F42F941250F32F942250F22F943251192F944251332F9470771F2F9480774A",
    "2F949040392F94A0778B2F94B040462F94C040962F94D2541D2F94E0784E2F94F0788C2F950078CC",
    "2F951040E32F952256262F953079562F9542569A2F955256C52F9560798F2F957079EB2F9580412F",
    "2F95907A402F95A07A4A2F95B07A4F2F95C2597C2F95D25AA72F95E25AA72F95F07AEE2F96004202",
    "2F96125BAB2F96207BC62F96307BC92F964042272F96525C802F96607CD22F967042A02F96807CE8",
    "2F96907CE32F96A07D002F96B25F862F96C07D632F96D043012F96E07DC72F96F07E022F97007E45",
    "2F971043342F972262282F973262472F974043592F975262D92F97607F7A2F9772633E2F97807F95",
    "2F97907FFA2F97A080052F97B264DA2F97C265232F97D080602F97E265A82F97F080702F9802335F",
    "2F981043D52F982080B22F983081032F9840440B2F9850813E2F98605AB52F987267A72F988267B5",
    "2F989233932F98A2339C2F98B082012F98C082042F98D08F9E2F98E0446B2F98F082912F9900828B",
    "2F9910829D2F992052B32F993082B12F994082B32F995082BD2F996082E62F99726B3C2F998082E5",
    "2F9990831D2F99A083632F99B083AD2F99C083232F99D083BD2F99E083E72F99F084572F9A008353",
    "2F9A1083CA2F9A2083CC2F9A3083DC2F9A426C362F9A526D6B2F9A626CD52F9A70452B2F9A8084F1",
    "2F9A9084F32F9AA085162F9AB273CA2F9AC085642F9AD26F2C2F9AE0455D2F9AF045612F9B026FB1",
    "2F9B1270D22F9B20456B2F9B3086502F9B40865C2F9B5086672F9B6086692F9B7086A92F9B808688",
    "2F9B90870E2F9BA086E22F9BB087792F9BC087282F9BD0876B2F9BE087862F9BF045D72F9C0087E1",
    "2F9C1088012F9C2045F92F9C3088602F9C4088632F9C5276672F9C6088D72F9C7088DE2F9C804635",
    "2F9C9088FA2F9CA034BB2F9CB278AE2F9CC279662F9CD046BE2F9CE046C72F9CF08AA02F9D008AED",
    "2F9D108B8A2F9D208C552F9D327CA82F9D408CAB2F9D508CC12F9D608D1B2F9D708D772F9D827F2F",
    "2F9D9208042F9DA08DCB2F9DB08DBC2F9DC08DF02F9DD208DE2F9DE08ED42F9DF08F382F9E0285D2",
    "2F9E1285ED2F9E2090942F9E3090F12F9E4091112F9E52872E2F9E60911B2F9E7092382F9EA0927C",
    "2F9EB093F92F9EC094152F9ED28BFA2F9EE0958B2F9EF049952F9F0095B72F9F128D772F9F2049E6",
    "2F9F3096C32F9F405DB22F9F5097232F9F6291452F9F72921A2F9F804A6E2F9F904A762F9FA097E0",
    "2F9FB2940A2F9FC04AB22F9FD294962F9FE0980B2F9FF0980B2FA00098292FA01295B62FA02098E2",
    "2FA0304B332FA04099292FA05099A72FA06099C22FA07099FE2FA0804BCE2FA0929B302FA0A09B12",
    "2FA0B09C402FA0C09CFD2FA0D04CCE2FA0E04CED2FA0F09D672FA102A0CE2FA1104CF82FA122A105",
    "2FA132A20E2FA142A2912FA1509EBB2FA1604D562FA1709EF92FA1809EFE2FA1909F052FA1A09F0F",
    "2FA1B09F162FA1C09F3B2FA1D2A600"]

/-- Single characters, each with the number of characters that it stands for, and
these. -/
def phrases : List Nat :=
  Packed.numbers [
    "000BC00003000310204400034000BD00003000310204400032000BE0000300033020440003400130",
    "0000200069003070013200002000690006A0013300002000690006A0013F000020006C000B700140",
    "000020006C000B70014900002002BC0006E001C400002000640017E001C500002000640017E001C6",
    "00002000640017E001C7000020006C0006A001C8000020006C0006A001C9000020006C0006A001CA",
    "000020006E0006A001CB000020006E0006A001CC000020006E0006A001F100002000640007A001F2",
    "00002000640007A001F300002000640007A003440000200308003010058700002005650058200675",
    "000020062700674006760000200648006740067700002006C70067400678000020064A0067400958",
    "00002009150093C0095900002009160093C0095A00002009170093C0095B000020091C0093C0095C",
    "00002009210093C0095D00002009220093C0095E000020092B0093C0095F000020092F0093C009DC",
    "00002009A1009BC009DD00002009A2009BC009DF00002009AF009BC00A330000200A3200A3C00A36",
    "0000200A3800A3C00A590000200A1600A3C00A5A0000200A1700A3C00A5B0000200A1C00A3C00A5E",
    "0000200A2B00A3C00B5C0000200B2100B3C00B5D0000200B2200B3C00E330000200E4D00E3200EB3",
    "0000200ECD00EB200EDC0000200EAB00E9900EDD0000200EAB00EA100F430000200F4200FB700F4D",
    "0000200F4C00FB700F520000200F5100FB700F570000200F5600FB700F5C0000200F5B00FB700F69",
    "0000200F4000FB500F730000200F7100F7200F750000200F7100F7400F760000200FB200F8000F77",
    "0000300FB200F7100F8000F780000200FB300F8000F790000300FB300F7100F8000F810000200F71",
    "00F8000F930000200F9200FB700F9D0000200F9C00FB700FA20000200FA100FB700FA70000200FA6",
    "00FB700FAC0000200FAB00FB700FB90000200F9000FB501E9A0000200061002BE01F800000201F00",
    "003B901F810000201F01003B901F820000201F02003B901F830000201F03003B901F840000201F04",
    "003B901F850000201F05003B901F860000201F06003B901F870000201F07003B901F880000201F00",
    "003B901F890000201F01003B901F8A0000201F02003B901F8B0000201F03003B901F8C0000201F04",
    "003B901F8D0000201F05003B901F8E0000201F06003B901F8F0000201F07003B901F900000201F20",
    "003B901F910000201F21003B901F920000201F22003B901F930000201F23003B901F940000201F24",
    "003B901F950000201F25003B901F960000201F26003B901F970000201F27003B901F980000201F20",
    "003B901F990000201F21003B901F9A0000201F22003B901F9B0000201F23003B901F9C0000201F24",
    "003B901F9D0000201F25003B901F9E0000201F26003B901F9F0000201F27003B901FA00000201F60",
    "003B901FA10000201F61003B901FA20000201F62003B901FA30000201F63003B901FA40000201F64",
    "003B901FA50000201F65003B901FA60000201F66003B901FA70000201F67003B901FA80000201F60",
    "003B901FA90000201F61003B901FAA0000201F62003B901FAB0000201F63003B901FAC0000201F64",
    "003B901FAD0000201F65003B901FAE0000201F66003B901FAF0000201F67003B901FB20000201F70",
    "003B901FB300002003B1003B901FB400002003AC003B901FB70000201FB6003B901FBC00002003B1",
    "003B901FC20000201F74003B901FC300002003B7003B901FC400002003AE003B901FC70000201FC6",
    "003B901FCC00002003B7003B901FF20000201F7C003B901FF300002003C9003B901FF400002003CE",
    "003B901FF70000201FF6003B901FFC00002003C9003B902033000020203202032020340000302032",
    "02032020320203600002020350203502037000030203502035020350205700004020320203202032",
    "02032020A80000200072000730210300002000B0000630210900002000B00006602116000020006E",
    "0006F0212000002000730006D021210000300074000650006C0212200002000740006D0213B00003",
    "00066000610007802150000030003102044000370215100003000310204400039021520000400031",
    "02044000310003002153000030003102044000330215400003000320204400033021550000300031",
    "02044000350215600003000320204400035021570000300033020440003502158000030003402044",
    "0003502159000030003102044000360215A000030003502044000360215B00003000310204400038",
    "0215C000030003302044000380215D000030003502044000380215E000030003702044000380215F",
    "00002000310204402161000020006900069021620000300069000690006902163000020006900076",
    "02165000020007600069021660000300076000690006902167000040007600069000690006902168",
    "0000200069000780216A0000200078000690216B0000300078000690006902171000020006900069",
    "02172000030006900069000690217300002000690007602175000020007600069021760000300076",
    "0006900069021770000400076000690006900069021780000200069000780217A000020007800069",
    "0217B0000300078000690006902189000030003002044000330222C000020222B0222B0222D00003",
    "0222B0222B0222B0222F000020222E0222E02230000030222E0222E0222E02469000020003100030",
    "0246A0000200031000310246B0000200031000320246C0000200031000330246D000020003100034",
    "0246E0000200031000350246F0000200031000360247000002000310003702471000020003100038",
    "024720000200031000390247300002000320003002A0C000040222B0222B0222B0222B02ADC00002",
    "02ADD003380309F00002030880308A030FF00002030B3030C8032500000300070000740006503251",
    "00002000320003103252000020003200032032530000200032000330325400002000320003403255",
    "00002000320003503256000020003200036032570000200032000370325800002000320003803259",
    "0000200032000390325A0000200033000300325B0000200033000310325C0000200033000320325D",
    "0000200033000330325E0000200033000340325F0000200033000350327C000020CC380ACE00327D",
    "000020C8FC0C758032B1000020003300036032B2000020003300037032B3000020003300038032B4",
    "000020003300039032B5000020003400030032B6000020003400031032B7000020003400032032B8",
    "000020003400033032B9000020003400034032BA000020003400035032BB000020003400036032BC",
    "000020003400037032BD000020003400038032BE000020003400039032BF000020003500030032C0",
    "000020003106708032C1000020003206708032C2000020003306708032C3000020003406708032C4",
    "000020003506708032C5000020003606708032C6000020003706708032C7000020003806708032C8",
    "000020003906708032C900003000310003006708032CA00003000310003106708032CB0000300031",
    "0003206708032CC000020006800067032CD00003000650007200067032CE000020006500076032CF",
    "000030006C0007400064032FF0000204EE40548C0330000004030A2030D1030FC030C80330100004",
    "030A2030EB030D5030A10330200004030A2030F3030DA030A20330300003030A2030FC030EB03304",
    "00004030A4030CB030F3030B00330500003030A4030F3030C10330600003030A6030A9030F303307",
    "00005030A8030B9030AF030FC030C90330800004030A8030FC030AB030FC0330900003030AA030F3",
    "030B90330A00003030AA030FC030E00330B00003030AB030A4030EA0330C00004030AB030E9030C3",
    "030C80330D00004030AB030ED030EA030FC0330E00003030AC030ED030F30330F00003030AC030F3",
    "030DE0331000002030AE030AC0331100003030AE030CB030FC0331200004030AD030E5030EA030FC",
    "0331300004030AE030EB030C0030FC0331400002030AD030ED0331500005030AD030ED030B0030E9",
    "030E00331600006030AD030ED030E1030FC030C8030EB0331700005030AD030ED030EF030C3030C8",
    "0331800003030B0030E9030E00331900005030B0030E9030E0030C8030F30331A00005030AF030EB",
    "030BC030A4030ED0331B00004030AF030ED030FC030CD0331C00003030B1030FC030B90331D00003",
    "030B3030EB030CA0331E00003030B3030FC030DD0331F00004030B5030A4030AF030EB0332000005",
    "030B5030F3030C1030FC030E00332100004030B7030EA030F3030B00332200003030BB030F3030C1",
    "0332300003030BB030F3030C80332400003030C0030FC030B90332500002030C7030B70332600002",
    "030C9030EB0332700002030C8030F30332800002030CA030CE0332900003030CE030C3030C80332A",
    "00003030CF030A4030C40332B00005030D1030FC030BB030F3030C80332C00003030D1030FC030C4",
    "0332D00004030D0030FC030EC030EB0332E00005030D4030A2030B9030C8030EB0332F00003030D4",
    "030AF030EB0333000002030D4030B30333100002030D3030EB0333200005030D5030A1030E9030C3",
    "030C90333300004030D5030A3030FC030C80333400005030D6030C3030B7030A7030EB0333500003",
    "030D5030E9030F30333600005030D8030AF030BF030FC030EB0333700002030DA030BD0333800003",
    "030DA030CB030D20333900003030D8030EB030C40333A00003030DA030F3030B90333B00003030DA",
    "030FC030B80333C00003030D9030FC030BF0333D00004030DD030A4030F3030C80333E00003030DC",
    "030EB030C80333F00002030DB030F30334000003030DD030F3030C90334100003030DB030FC030EB",
    "0334200003030DB030FC030F30334300004030DE030A4030AF030ED0334400003030DE030A4030EB",
    "0334500003030DE030C3030CF0334600003030DE030EB030AF0334700005030DE030F3030B7030E7",
    "030F30334800004030DF030AF030ED030F30334900002030DF030EA0334A00005030DF030EA030D0",
    "030FC030EB0334B00002030E1030AC0334C00004030E1030AC030C8030F30334D00004030E1030FC",
    "030C8030EB0334E00003030E4030FC030C90334F00003030E4030FC030EB0335000003030E6030A2",
    "030F30335100004030EA030C3030C8030EB0335200002030EA030E90335300003030EB030D4030FC",
    "0335400004030EB030FC030D6030EB0335500002030EC030E00335600005030EC030F3030C8030B2",
    "030F30335700003030EF030C3030C8033580000200030070B9033590000200031070B90335A00002",
    "00032070B90335B0000200033070B90335C0000200034070B90335D0000200035070B90335E00002",
    "00036070B90335F0000200037070B9033600000200038070B9033610000200039070B90336200003",
    "0003100030070B903363000030003100031070B903364000030003100032070B9033650000300031",
    "00033070B903366000030003100034070B903367000030003100035070B903368000030003100036",
    "070B903369000030003100037070B90336A000030003100038070B90336B000030003100039070B9",
    "0336C000030003200030070B90336D000030003200031070B90336E000030003200032070B90336F",
    "000030003200033070B903370000030003200034070B903371000030006800070000610337200002",
    "000640006103373000020006100075033740000300062000610007203375000020006F0007603376",
    "0000200070000630337700002000640006D0337800003000640006D000320337900003000640006D",
    "000330337A0000200069000750337B0000205E73062100337C000020662D0548C0337D0000205927",
    "06B630337E000020660E06CBB0337F000040682A05F0F04F1A0793E0338000002000700006103381",
    "000020006E000610338200002003BC0006103383000020006D0006103384000020006B0006103385",
    "000020006B0006203386000020006D0006203387000020006700062033880000300063000610006C",
    "03389000040006B00063000610006C0338A0000200070000660338B000020006E000660338C00002",
    "003BC000660338D00002003BC000670338E000020006D000670338F000020006B000670339000002",
    "000680007A03391000030006B000680007A03392000030006D000680007A03393000030006700068",
    "0007A033940000300074000680007A0339500002003BC0006C03396000020006D0006C0339700002",
    "000640006C03398000020006B0006C0339900002000660006D0339A000020006E0006D0339B00002",
    "003BC0006D0339C000020006D0006D0339D00002000630006D0339E000020006B0006D0339F00003",
    "0006D0006D00032033A000003000630006D00032033A1000020006D00032033A2000030006B0006D",
    "00032033A3000030006D0006D00033033A400003000630006D00033033A5000020006D00033033A6",
    "000030006B0006D00033033A7000030006D0221500073033A8000040006D022150007300032033A9",
    "000020007000061033AA000030006B0007000061033AB000030006D0007000061033AC0000300067",
    "0007000061033AD00003000720006100064033AE000050007200061000640221500073033AF00006",
    "000720006100064022150007300032033B0000020007000073033B1000020006E00073033B200002",
    "003BC00073033B3000020006D00073033B4000020007000076033B5000020006E00076033B600002",
    "003BC00076033B7000020006D00076033B8000020006B00076033B9000020006D00076033BA00002",
    "0007000077033BB000020006E00077033BC00002003BC00077033BD000020006D00077033BE00002",
    "0006B00077033BF000020006D00077033C0000020006B003C9033C1000020006D003C9033C300002",
    "0006200071033C4000020006300063033C5000020006300064033C60000400063022150006B00067",
    "033C8000020006400062033C9000020006700079033CA000020006800061033CB000020006800070",
    "033CC00002000690006E033CD000020006B0006B033CE000020006B0006D033CF000020006B00074",
    "033D0000020006C0006D033D1000020006C0006E033D2000030006C0006F00067033D3000020006C",
    "00078033D4000020006D00062033D5000030006D000690006C033D6000030006D0006F0006C033D7",
    "000020007000068033D90000300070000700006D033DA000020007000072033DB000020007300072",
    "033DC000020007300076033DD000020007700062033DE0000300076022150006D033DF0000300061",
    "022150006D033E00000200031065E5033E10000200032065E5033E20000200033065E5033E300002",
    "00034065E5033E40000200035065E5033E50000200036065E5033E60000200037065E5033E700002",
    "00038065E5033E80000200039065E5033E9000030003100030065E5033EA000030003100031065E5",
    "033EB000030003100032065E5033EC000030003100033065E5033ED000030003100034065E5033EE",
    "000030003100035065E5033EF000030003100036065E5033F0000030003100037065E5033F100003",
    "0003100038065E5033F2000030003100039065E5033F3000030003200030065E5033F40000300032",
    "00031065E5033F5000030003200032065E5033F6000030003200033065E5033F7000030003200034",
    "065E5033F8000030003200035065E5033F9000030003200036065E5033FA000030003200037065E5",
    "033FB000030003200038065E5033FC000030003200039065E5033FD000030003300030065E5033FE",
    "000030003300031065E5033FF0000300067000610006C0FB000000200066000660FB010000200066",
    "000690FB0200002000660006C0FB03000030006600066000690FB040000300066000660006C0FB05",
    "0000200073000740FB060000200073000740FB130000200574005760FB140000200574005650FB15",
    "00002005740056B0FB16000020057E005760FB1700002005740056D0FB1D00002005D9005B40FB1F",
    "00002005F2005B70FB2A00002005E9005C10FB2B00002005E9005C20FB2C00003005E9005BC005C1",
    "0FB2D00003005E9005BC005C20FB2E00002005D0005B70FB2F00002005D0005B80FB3000002005D0",
    "005BC0FB3100002005D1005BC0FB3200002005D2005BC0FB3300002005D3005BC0FB3400002005D4",
    "005BC0FB3500002005D5005BC0FB3600002005D6005BC0FB3800002005D8005BC0FB3900002005D9",
    "005BC0FB3A00002005DA005BC0FB3B00002005DB005BC0FB3C00002005DC005BC0FB3E00002005DE",
    "005BC0FB4000002005E0005BC0FB4100002005E1005BC0FB4300002005E3005BC0FB4400002005E4",
    "005BC0FB4600002005E6005BC0FB4700002005E7005BC0FB4800002005E8005BC0FB4900002005E9",
    "005BC0FB4A00002005EA005BC0FB4B00002005D5005B90FB4C00002005D1005BF0FB4D00002005DB",
    "005BF0FB4E00002005E4005BF0FB4F00002005D0005DC0FBDD00002006C7006740FBEA0000200626",
    "006270FBEB0000200626006270FBEC0000200626006D50FBED0000200626006D50FBEE0000200626",
    "006480FBEF0000200626006480FBF00000200626006C70FBF10000200626006C70FBF20000200626",
    "006C60FBF30000200626006C60FBF40000200626006C80FBF50000200626006C80FBF60000200626",
    "006D00FBF70000200626006D00FBF80000200626006D00FBF90000200626006490FBFA0000200626",
    "006490FBFB0000200626006490FC0000002006260062C0FC0100002006260062D0FC020000200626",
    "006450FC030000200626006490FC0400002006260064A0FC0500002006280062C0FC060000200628",
    "0062D0FC0700002006280062E0FC080000200628006450FC090000200628006490FC0A0000200628",
    "0064A0FC0B000020062A0062C0FC0C000020062A0062D0FC0D000020062A0062E0FC0E000020062A",
    "006450FC0F000020062A006490FC10000020062A0064A0FC11000020062B0062C0FC12000020062B",
    "006450FC13000020062B006490FC14000020062B0064A0FC15000020062C0062D0FC16000020062C",
    "006450FC17000020062D0062C0FC18000020062D006450FC19000020062E0062C0FC1A000020062E",
    "0062D0FC1B000020062E006450FC1C00002006330062C0FC1D00002006330062D0FC1E0000200633",
    "0062E0FC1F0000200633006450FC2000002006350062D0FC210000200635006450FC220000200636",
    "0062C0FC2300002006360062D0FC2400002006360062E0FC250000200636006450FC260000200637",
    "0062D0FC270000200637006450FC280000200638006450FC2900002006390062C0FC2A0000200639",
    "006450FC2B000020063A0062C0FC2C000020063A006450FC2D00002006410062C0FC2E0000200641",
    "0062D0FC2F00002006410062E0FC300000200641006450FC310000200641006490FC320000200641",
    "0064A0FC3300002006420062D0FC340000200642006450FC350000200642006490FC360000200642",
    "0064A0FC370000200643006270FC3800002006430062C0FC3900002006430062D0FC3A0000200643",
    "0062E0FC3B0000200643006440FC3C0000200643006450FC3D0000200643006490FC3E0000200643",
    "0064A0FC3F00002006440062C0FC4000002006440062D0FC4100002006440062E0FC420000200644",
    "006450FC430000200644006490FC4400002006440064A0FC4500002006450062C0FC460000200645",
    "0062D0FC4700002006450062E0FC480000200645006450FC490000200645006490FC4A0000200645",
    "0064A0FC4B00002006460062C0FC4C00002006460062D0FC4D00002006460062E0FC4E0000200646",
    "006450FC4F0000200646006490FC5000002006460064A0FC5100002006470062C0FC520000200647",
    "006450FC530000200647006490FC5400002006470064A0FC55000020064A0062C0FC56000020064A",
    "0062D0FC57000020064A0062E0FC58000020064A006450FC59000020064A006490FC5A000020064A",
    "0064A0FC5B0000200630006700FC5C0000200631006700FC5D0000200649006700FC640000200626",
    "006310FC650000200626006320FC660000200626006450FC670000200626006460FC680000200626",
    "006490FC6900002006260064A0FC6A0000200628006310FC6B0000200628006320FC6C0000200628",
    "006450FC6D0000200628006460FC6E0000200628006490FC6F00002006280064A0FC70000020062A",
    "006310FC71000020062A006320FC72000020062A006450FC73000020062A006460FC74000020062A",
    "006490FC75000020062A0064A0FC76000020062B006310FC77000020062B006320FC78000020062B",
    "006450FC79000020062B006460FC7A000020062B006490FC7B000020062B0064A0FC7C0000200641",
    "006490FC7D00002006410064A0FC7E0000200642006490FC7F00002006420064A0FC800000200643",
    "006270FC810000200643006440FC820000200643006450FC830000200643006490FC840000200643",
    "0064A0FC850000200644006450FC860000200644006490FC8700002006440064A0FC880000200645",
    "006270FC890000200645006450FC8A0000200646006310FC8B0000200646006320FC8C0000200646",
    "006450FC8D0000200646006460FC8E0000200646006490FC8F00002006460064A0FC900000200649",
    "006700FC91000020064A006310FC92000020064A006320FC93000020064A006450FC94000020064A",
    "006460FC95000020064A006490FC96000020064A0064A0FC9700002006260062C0FC980000200626",
    "0062D0FC9900002006260062E0FC9A0000200626006450FC9B0000200626006470FC9C0000200628",
    "0062C0FC9D00002006280062D0FC9E00002006280062E0FC9F0000200628006450FCA00000200628",
    "006470FCA1000020062A0062C0FCA2000020062A0062D0FCA3000020062A0062E0FCA4000020062A",
    "006450FCA5000020062A006470FCA6000020062B006450FCA7000020062C0062D0FCA8000020062C",
    "006450FCA9000020062D0062C0FCAA000020062D006450FCAB000020062E0062C0FCAC000020062E",
    "006450FCAD00002006330062C0FCAE00002006330062D0FCAF00002006330062E0FCB00000200633",
    "006450FCB100002006350062D0FCB200002006350062E0FCB30000200635006450FCB40000200636",
    "0062C0FCB500002006360062D0FCB600002006360062E0FCB70000200636006450FCB80000200637",
    "0062D0FCB90000200638006450FCBA00002006390062C0FCBB0000200639006450FCBC000020063A",
    "0062C0FCBD000020063A006450FCBE00002006410062C0FCBF00002006410062D0FCC00000200641",
    "0062E0FCC10000200641006450FCC200002006420062D0FCC30000200642006450FCC40000200643",
    "0062C0FCC500002006430062D0FCC600002006430062E0FCC70000200643006440FCC80000200643",
    "006450FCC900002006440062C0FCCA00002006440062D0FCCB00002006440062E0FCCC0000200644",
    "006450FCCD0000200644006470FCCE00002006450062C0FCCF00002006450062D0FCD00000200645",
    "0062E0FCD10000200645006450FCD200002006460062C0FCD300002006460062D0FCD40000200646",
    "0062E0FCD50000200646006450FCD60000200646006470FCD700002006470062C0FCD80000200647",
    "006450FCD90000200647006700FCDA000020064A0062C0FCDB000020064A0062D0FCDC000020064A",
    "0062E0FCDD000020064A006450FCDE000020064A006470FCDF0000200626006450FCE00000200626",
    "006470FCE10000200628006450FCE20000200628006470FCE3000020062A006450FCE4000020062A",
    "006470FCE5000020062B006450FCE6000020062B006470FCE70000200633006450FCE80000200633",
    "006470FCE90000200634006450FCEA0000200634006470FCEB0000200643006440FCEC0000200643",
    "006450FCED0000200644006450FCEE0000200646006450FCEF0000200646006470FCF0000020064A",
    "006450FCF1000020064A006470FCF200003006400064E006510FCF300003006400064F006510FCF4",
    "000030064000650006510FCF50000200637006490FCF600002006370064A0FCF7000020063900649",
    "0FCF800002006390064A0FCF9000020063A006490FCFA000020063A0064A0FCFB000020063300649",
    "0FCFC00002006330064A0FCFD0000200634006490FCFE00002006340064A0FCFF000020062D00649",
    "0FD00000020062D0064A0FD01000020062C006490FD02000020062C0064A0FD03000020062E00649",
    "0FD04000020062E0064A0FD050000200635006490FD0600002006350064A0FD07000020063600649",
    "0FD0800002006360064A0FD0900002006340062C0FD0A00002006340062D0FD0B00002006340062E",
    "0FD0C0000200634006450FD0D0000200634006310FD0E0000200633006310FD0F000020063500631",
    "0FD100000200636006310FD110000200637006490FD1200002006370064A0FD13000020063900649",
    "0FD1400002006390064A0FD15000020063A006490FD16000020063A0064A0FD17000020063300649",
    "0FD1800002006330064A0FD190000200634006490FD1A00002006340064A0FD1B000020062D00649",
    "0FD1C000020062D0064A0FD1D000020062C006490FD1E000020062C0064A0FD1F000020062E00649",
    "0FD20000020062E0064A0FD210000200635006490FD2200002006350064A0FD23000020063600649",
    "0FD2400002006360064A0FD2500002006340062C0FD2600002006340062D0FD2700002006340062E",
    "0FD280000200634006450FD290000200634006310FD2A0000200633006310FD2B000020063500631",
    "0FD2C0000200636006310FD2D00002006340062C0FD2E00002006340062D0FD2F00002006340062E",
    "0FD300000200634006450FD310000200633006470FD320000200634006470FD33000020063700645",
    "0FD3400002006330062C0FD3500002006330062D0FD3600002006330062E0FD3700002006340062C",
    "0FD3800002006340062D0FD3900002006340062E0FD3A0000200637006450FD3B000020063800645",
    "0FD3C00002006270064B0FD3D00002006270064B0FD50000030062A0062C006450FD51000030062A",
    "0062D0062C0FD52000030062A0062D0062C0FD53000030062A0062D006450FD54000030062A0062E",
    "006450FD55000030062A006450062C0FD56000030062A006450062D0FD57000030062A006450062E",
    "0FD58000030062C006450062D0FD59000030062C006450062D0FD5A000030062D006450064A0FD5B",
    "000030062D00645006490FD5C00003006330062D0062C0FD5D00003006330062C0062D0FD5E00003",
    "006330062C006490FD5F0000300633006450062D0FD600000300633006450062D0FD610000300633",
    "006450062C0FD62000030063300645006450FD63000030063300645006450FD6400003006350062D",
    "0062D0FD6500003006350062D0062D0FD66000030063500645006450FD6700003006340062D00645",
    "0FD6800003006340062D006450FD6900003006340062C0064A0FD6A0000300634006450062E0FD6B",
    "0000300634006450062E0FD6C000030063400645006450FD6D000030063400645006450FD6E00003",
    "006360062D006490FD6F00003006360062E006450FD7000003006360062E006450FD710000300637",
    "006450062D0FD720000300637006450062D0FD73000030063700645006450FD74000030063700645",
    "0064A0FD7500003006390062C006450FD76000030063900645006450FD7700003006390064500645",
    "0FD78000030063900645006490FD79000030063A00645006450FD7A000030063A006450064A0FD7B",
    "000030063A00645006490FD7C00003006410062E006450FD7D00003006410062E006450FD7E00003",
    "00642006450062D0FD7F000030064200645006450FD8000003006440062D006450FD810000300644",
    "0062D0064A0FD8200003006440062D006490FD8300003006440062C0062C0FD8400003006440062C",
    "0062C0FD8500003006440062E006450FD8600003006440062E006450FD870000300644006450062D",
    "0FD880000300644006450062D0FD8900003006450062D0062C0FD8A00003006450062D006450FD8B",
    "00003006450062D0064A0FD8C00003006450062C0062D0FD8D00003006450062C006450FD8E00003",
    "006450062E0062C0FD8F00003006450062E006450FD9200003006450062C0062E0FD930000300647",
    "006450062C0FD94000030064700645006450FD9500003006460062D006450FD9600003006460062D",
    "006490FD9700003006460062C006450FD9800003006460062C006450FD9900003006460062C00649",
    "0FD9A0000300646006450064A0FD9B000030064600645006490FD9C000030064A00645006450FD9D",
    "000030064A00645006450FD9E00003006280062E0064A0FD9F000030062A0062C0064A0FDA000003",
    "0062A0062C006490FDA1000030062A0062E0064A0FDA2000030062A0062E006490FDA3000030062A",
    "006450064A0FDA4000030062A00645006490FDA5000030062C006450064A0FDA6000030062C0062D",
    "006490FDA7000030062C00645006490FDA800003006330062E006490FDA900003006350062D0064A",
    "0FDAA00003006340062D0064A0FDAB00003006360062D0064A0FDAC00003006440062C0064A0FDAD",
    "0000300644006450064A0FDAE000030064A0062D0064A0FDAF000030064A0062C0064A0FDB000003",
    "0064A006450064A0FDB10000300645006450064A0FDB20000300642006450064A0FDB30000300646",
    "0062D0064A0FDB40000300642006450062D0FDB500003006440062D006450FDB6000030063900645",
    "0064A0FDB70000300643006450064A0FDB800003006460062C0062D0FDB900003006450062E0064A",
    "0FDBA00003006440062C006450FDBB000030064300645006450FDBC00003006440062C006450FDBD",
    "00003006460062C0062D0FDBE000030062C0062D0064A0FDBF000030062D0062C0064A0FDC000003",
    "006450062C0064A0FDC10000300641006450064A0FDC200003006280062D0064A0FDC30000300643",
    "00645006450FDC400003006390062C006450FDC5000030063500645006450FDC600003006330062E",
    "0064A0FDC700003006460062C0064A0FDF0000030063500644006D20FDF1000030064200644006D2",
    "0FDF200004006270064400644006470FDF300004006270064300628006310FDF400004006450062D",
    "006450062F0FDF500004006350064400639006450FDF600004006310063300648006440FDF700004",
    "00639006440064A006470FDF800004006480063300644006450FDF9000030063500644006490FDFC",
    "0000400631006CC00627006440FE7100002006400064B0FE7700002006400064E0FE790000200640",
    "0064F0FE7B0000200640006500FE7D0000200640006510FE7F0000200640006520FEF50000200644",
    "006220FEF60000200644006220FEF70000200644006230FEF80000200644006230FEF90000200644",
    "006250FEFA0000200644006250FEFB0000200644006270FEFC0000200644006271D15E000021D157",
    "1D1651D15F000021D1581D1651D160000031D1581D1651D16E1D161000031D1581D1651D16F1D162",
    "000031D1581D1651D1701D163000031D1581D1651D1711D164000031D1581D1651D1721D1BB00002",
    "1D1B91D1651D1BC000021D1BA1D1651D1BD000031D1B91D1651D16E1D1BE000031D1BA1D1651D16E",
    "1D1BF000031D1B91D1651D16F1D1C0000031D1BA1D1651D16F1F12A000030301400073030151F12D",
    "0000200063000641F12E00002000770007A1F14A0000200068000761F14B000020006D000761F14C",
    "0000200073000641F14D0000200073000731F14E000030007000070000761F14F000020007700063",
    "1F16A000020006D000631F16B000020006D000641F16C000020006D000721F19000002000640006A",
    "1F200000020307B0304B1F20100002030B3030B31F24000003030140672C030151F2410000303014",
    "04E09030151F242000030301404E8C030151F243000030301405B89030151F2440000303014070B9",
    "030151F245000030301406253030151F2460000303014076D7030151F2470000303014052DD03015",
    "1F24800003030140655703015"]

/-- The characters that count for nothing, as ranges. -/
def ignored : List Nat :=
  Packed.numbers [
    "000AD000AD0034F0034F0115F01160017B4017B50180B0180F0200B0200B02060020640206A0206F",
    "03164031640FE000FE0F0FEFF0FEFF0FFA00FFA01BCA01BCA31D1731D17AE0100E01EF"]

/-- The characters of at most five digits that are refused, as ranges; the ones above may
stand in them. -/
def refused : List Nat :=
  Packed.numbers [
    "000000002C0002F0002F0003A000600007B000A0000A8000A8000AF000AF000B4000B4000B8000B8",
    "002D8002DD003780037A0037E0038D003A2003A200530005580058B0058C0059000590005C8005CF",
    "005EB005EE005F5006050061C0061C006DD006DD0070E0070F0074B0074C007B2007BF007FB007FC",
    "0082E0082F0083F0083F0085C0085D0085F0085F0086B0086F0089000896008E2008E20098400984",
    "0098D0098E0099100992009A9009A9009B1009B1009B3009B5009BA009BB009C5009C6009C9009CA",
    "009CF009D6009D8009DE009E4009E5009FF00A0000A0400A0400A0B00A0E00A1100A1200A2900A29",
    "00A3100A3100A3400A3400A3700A3700A3A00A3B00A3D00A3D00A4300A4600A4900A4A00A4E00A50",
    "00A5200A5800A5D00A6500A7700A8000A8400A8400A8E00A8E00A9200A9200AA900AA900AB100AB1",
    "00AB400AB400ABA00ABB00AC600AC600ACA00ACA00ACE00ACF00AD100ADF00AE400AE500AF200AF8",
    "00B0000B0000B0400B0400B0D00B0E00B1100B1200B2900B2900B3100B3100B3400B3400B3A00B3B",
    "00B4500B4600B4900B4A00B4E00B5400B5800B5E00B6400B6500B7800B8100B8400B8400B8B00B8D",
    "00B9100B9100B9600B9800B9B00B9B00B9D00B9D00BA000BA200BA500BA700BAB00BAD00BBA00BBD",
    "00BC300BC500BC900BC900BCE00BCF00BD100BD600BD800BE500BFB00BFF00C0D00C0D00C1100C11",
    "00C2900C2900C3A00C3B00C4500C4500C4900C4900C4E00C5400C5700C5700C5B00C5B00C5E00C5F",
    "00C6400C6500C7000C7600C8D00C8D00C9100C9100CA900CA900CB400CB400CBA00CBB00CC500CC5",
    "00CC900CC900CCE00CD400CD700CDB00CDF00CDF00CE400CE500CF000CF000CF400CFF00D0D00D0D",
    "00D1100D1100D4500D4500D4900D4900D5000D5300D6400D6500D8000D8000D8400D8400D9700D99",
    "00DB200DB200DBC00DBC00DBE00DBF00DC700DC900DCB00DCE00DD500DD500DD700DD700DE000DE5",
    "00DF000DF100DF500E0000E3B00E3E00E5C00E8000E8300E8300E8500E8500E8B00E8B00EA400EA4",
    "00EA600EA600EBE00EBF00EC500EC500EC700EC700ECF00ECF00EDA00EDB00EE000EFF00F4800F48",
    "00F6D00F7000F9800F9800FBD00FBD00FCD00FCD00FDB00FFF010C6010CF01249012490124E0124F",
    "012570125701259012590125E0125F01289012890128E0128F012B1012B1012B6012B7012BF012BF",
    "012C1012C1012C6012C7012D7012D7013110131101316013170135B0135C0137D0137F0139A0139F",
    "013F6013FF01680016800169D0169F016F9016FF017160171E017370173F017540175F0176D0176D",
    "0177101771017740177F017DE017DF017EA017EF017FA017FF0181A0181F018790187F018AB018AF",
    "018F6018FF0191F0191F0192C0192F0193C0193F01941019430196E0196F019750197F019AC019AF",
    "019CA019CF019DB019DD01A1C01A1D01A5F01A5F01A7D01A7E01A8A01A8F01A9A01A9F01AAE01AAF",
    "01ADE01ADF01AEC01AFF01B4D01B4D01BF401BFB01C3801C3A01C4A01C4C01C8B01CBC01CC801CCF",
    "01CFB01CFF01F1601F1F01F4601F4F01F5801F5E01F7E01F7F01FB501FB501FBD01FC501FCD01FCF",
    "01FD401FD501FDC01FDF01FED01FF501FFD0200A0200E0200F02017020170202402026020280202F",
    "0203C0203C0203E0203E02047020490205F0209F020C2020CF020F10210102105021060218C0218F",
    "02260022600226E0226F0242A0243F0244B024B502A7402A7602B7402B7502CF402CF802D2602D26",
    "02D2802D2C02D2E02D2F02D6802D6E02D7102D7E02D9702D9F02DA702DA702DAF02DAF02DB702DB7",
    "02DBF02DBF02DC702DC702DCF02DCF02DD702DD702DDF02DDF02E5E02E7F02E9A02E9A02EF403000",
    "030400304003097030980309B0309C0310003104031300318F031E6031EF0320003243033C2033D8",
    "0A48D0A48F0A4C70A4CF0A62C0A63F0A6F80A6FF0A7DD0A7F00A82D0A82F0A83A0A83F0A8780A87F",
    "0A8C60A8CD0A8DA0A8DF0A9540A95E0A97D0A97F0A9CE0A9CE0A9DA0A9DD0A9FF0A9FF0AA370AA3F",
    "0AA4E0AA4F0AA5A0AA5B0AAC30AADA0AAF70AB000AB070AB080AB0F0AB100AB170AB1F0AB270AB27",
    "0AB2F0AB2F0AB6C0AB6F0ABEE0ABEF0ABFA0ABFF0D7A40D7AF0D7C70D7CA0D7FC0F8FF0FA6E0FB1C",
    "0FB290FB450FC5E0FC630FDD00FDFB0FE100FE1F0FE300FE380FE470FE720FE740FFFF1000C1000C",
    "10027100271003B1003B1003E1003E1004E1004F1005E1007F100FB100FF10103101061013410136",
    "1018F1018F1019D1019F101A1101CF101FE1027F1029D1029F102D1102DF102FC102FF103241032C",
    "1034B1034F1037B1037F1039E1039E103C4103C7103D6103FF1049E1049F104AA104D7104FC104FF",
    "105281052F105641056E1057B10596105A2105A2105B2105B2105BA105BA105BD105BF105F4105FF",
    "107371073F107561075F107681077F10786107FF108061080710809108091083610836108391083B",
    "1083D1083E10856108561089F108A6108B0108DF108F3108F3108F6108FA1091C1091E1093A1093E",
    "1095A1097F109B8109BB109D0109D110A0410A0410A0710A0B10A1410A1410A1810A1810A3610A37",
    "10A3B10A3E10A4910A4F10A5910A5F10AA010ABF10AE710AEA10AF710AFF10B3610B3810B5610B57",
    "10B7310B7710B9210B9810B9D10BA810BB010BFF10C4910CBF10CF310CF910D2810D2F10D3A10D3F",
    "10D6610D6810D8610D8D10D9010E5F10E7F10E7F10EAA10EAA10EAE10EAF10EB210EC110EC810ECF",
    "10ED910EF910F2810F2F10F5A10F6F10F8A10FAF10FCC10FDF10FF710FFF1104E11051110761107E",
    "110BD110BD110C3110CF110E9110EF110FA110FF1113511135111481114F111771117F111E0111E0",
    "111F5111FF1121211212112421127F112871128711289112891128E1128E1129E1129E112AA112AF",
    "112EB112EF112FA112FF11304113041130D1130E1131111312113291132911331113311133411334",
    "1133A1133A1134511346113491134A1134E1134F1135111356113581135C11364113651136D1136F",
    "113751137F1138A1138A1138C1138D1138F1138F113B6113B6113C1113C1113C3113C4113C6113C6",
    "113CB113CB113D6113D6113D9113E0113E3113FF1145C1145C114621147F114C8114CF114DA1157F",
    "115B6115B7115DE115FF116451164F1165A1165F1166D1167F116BA116BF116CA116CF116E4116FF",
    "1171B1171C1172C1172F11747117FF1183C1189F118F3118FE11907119081190A1190B1191411914",
    "11917119171193611936119391193A119471194F1195A1199F119A8119A9119D8119D9119E5119FF",
    "11A4811A4F11AA311AAF11AF911AFF11B0A11B5F11B6811BBF11BE211BEF11BFA11BFF11C0911C09",
    "11C3711C3711C4611C4F11C6D11C6F11C9011C9111CA811CA811CB711CFF11D0711D0711D0A11D0A",
    "11D3711D3911D3B11D3B11D3E11D3E11D4811D4F11D5A11D5F11D6611D6611D6911D6911D8F11D8F",
    "11D9211D9211D9911D9F11DAA11DAF11DDC11DDF11DEA11EDF11EF911EFF11F1111F1111F3B11F3D",
    "11F5B11FAF11FB111FBF11FF211FFE1239A123FF1246F1246F124751247F1254412F8F12FF312FFF",
    "134301343F134561345F143FB143FF14647160FF1613A167FF16A3916A3F16A5F16A5F16A6A16A6D",
    "16ABF16ABF16ACA16ACF16AEE16AEF16AF616AFF16B4616B4F16B5A16B5A16B6216B6216B7816B7C",
    "16B9016D3F16D7A16E3F16E9B16EBA16ED416EFF16F4B16F4E16F8816F8E16FA016FDF16FE516FEF",
    "16FF716FFF18CD618CFE18D1F18D7F18DF31AFEF1AFF41AFF41AFFC1AFFC1AFFF1AFFF1B1231B131",
    "1B1331B14F1B1531B1541B1561B1631B1681B16F1B2FC1BBFF1BC6B1BC6F1BC7D1BC7F1BC891BC8F",
    "1BC9A1BC9B1BCA41CBFF1CCFD1CCFF1CEB41CEB91CED11CEDF1CEF11CEFF1CF2E1CF2F1CF471CF4F",
    "1CFC41CFFF1D0F61D0FF1D1271D1281D1EB1D1FF1D2461D2BF1D2D41D2DF1D2F41D2FF1D3571D35F",
    "1D3791D7CD1DA8C1DA9A1DAA01DAA01DAB01DEFF1DF1F1DF241DF2B1DFFF1E0071E0071E0191E01A",
    "1E0221E0221E0251E0251E02B1E08E1E0901E0FF1E12D1E12F1E13E1E13F1E14A1E14D1E1501E28F",
    "1E2AF1E2BF1E2FA1E2FE1E3001E4CF1E4FA1E5CF1E5FB1E5FE1E6001E6BF1E6DF1E6DF1E6F61E6FD",
    "1E7001E7DF1E7E71E7E71E7EC1E7EC1E7EF1E7EF1E7FF1E7FF1E8C51E8C61E8D71E8FF1E94C1E94F",
    "1E95A1E95D1E9601EC701ECB51ED001ED3E1EEEF1EEF21EFFF1F02C1F02F1F0941F09F1F0AF1F0B0",
    "1F0C01F0C01F0D01F0D01F0F61F10A1F1101F1291F1AE1F1E51F2031F25F1F2661F2FF1F6D91F6DB",
    "1F6ED1F6EF1F6FD1F6FF1F7DA1F7DF1F7EC1F7EF1F7F11F7FF1F80C1F80F1F8481F84F1F85A1F85F",
    "1F8881F88F1F8AE1F8AF1F8BC1F8BF1F8C21F8CF1F8D91F8FF1FA581FA5F1FA6E1FA6F1FA7D1FA7F",
    "1FA8B1FA8D1FAC71FAC71FAC91FACC1FADD1FADE1FAEB1FAEE1FAF91FAFF1FB931FB931FBFB1FFFF",
    "2A6E02A6FF2B81E2B81F2CEAE2CEAF2EBE12EBEF2EE5E2FFFF3134B3134F3347AFFFFF"]

end TapeDuel.Net.Domain

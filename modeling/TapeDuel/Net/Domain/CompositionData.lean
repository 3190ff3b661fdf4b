import TapeDuel.Text.Packed

/-!
# Composed characters

Which pairs of characters are written as one, and in which order marks stand behind a
letter.
-/

namespace TapeDuel.Net.Domain

/-- Composed characters, each behind the two characters that it is made of. -/
def composites : List Nat :=
  Packed.numbers [
    "0006100300000E00006100301000E10006100302000E20006100303000E30006100308000E4",
    "000610030A000E50006300327000E70006500300000E80006500301000E90006500302000EA",
    "0006500308000EB0006900300000EC0006900301000ED0006900302000EE0006900308000EF",
    "0006E00303000F10006F00300000F20006F00301000F30006F00302000F40006F00303000F5",
    "0006F00308000F60007500300000F90007500301000FA0007500302000FB0007500308000FC",
    "0007900301000FD0007900308000FF000610030400101000610030600103000610032800105",
    "00063003010010700063003020010900063003070010B000630030C0010D000640030C0010F",
    "000650030400113000650030600115000650030700117000650032800119000650030C0011B",
    "00067003020011D00067003060011F000670030700121000670032700123000680030200125",
    "00069003030012900069003040012B00069003060012D00069003280012F0006A0030200135",
    "0006B00327001370006C003010013A0006C003270013C0006C0030C0013E0006E0030100144",
    "0006E00327001460006E0030C001480006F003040014D0006F003060014F0006F0030B00151",
    "000720030100155000720032700157000720030C0015900073003010015B00073003020015D",
    "00073003270015F000730030C00161000740032700163000740030C00165000750030300169",
    "00075003040016B00075003060016D000750030A0016F000750030B00171000750032800173",
    "0007700302001750007900302001770007A003010017A0007A003070017C0007A0030C0017E",
    "0006F0031B001A1000750031B001B0000610030C001CE000690030C001D00006F0030C001D2",
    "000750030C001D4000FC00304001D6000FC00301001D8000FC0030C001DA000FC00300001DC",
    "000E400304001DF0022700304001E1000E600304001E3000670030C001E70006B0030C001E9",
    "0006F00328001EB001EB00304001ED002920030C001EF0006A0030C001F00006700301001F5",
    "0006E00300001F9000E500301001FB000E600301001FD000F800301001FF000610030F00201",
    "000610031100203000650030F00205000650031100207000690030F0020900069003110020B",
    "0006F0030F0020D0006F003110020F000720030F00211000720031100213000750030F00215",
    "00075003110021700073003260021900074003260021B000680030C0021F000610030700227",
    "000650032700229000F6003040022B000F5003040022D0006F003070022F0022F0030400231",
    "000790030400233003CA0030100390003B100301003AC003B500301003AD003B700301003AE",
    "003B900301003AF003CB00301003B0003B900308003CA003C500308003CB003BF00301003CC",
    "003C500301003CD003C900301003CE004380030600439004350030000450004350030800451",
    "0043300301004530045600308004570043A003010045C00438003000045D00443003060045E",
    "004750030F004770043600306004C20043000306004D10043000308004D30043500306004D7",
    "004D900308004DB0043600308004DD0043700308004DF0043800304004E30043800308004E5",
    "0043E00308004E7004E900308004EB0044D00308004ED0044300304004EF0044300308004F1",
    "004430030B004F30044700308004F50044B00308004F9006270065300622006270065400623",
    "0064800654006240062700655006250064A0065400626006D500654006C0006C100654006C2",
    "006D200654006D3009280093C00929009300093C00931009330093C00934009C7009BE009CB",
    "009C7009D7009CC00B4700B5600B4800B4700B3E00B4B00B4700B5700B4C00B9200BD700B94",
    "00BC600BBE00BCA00BC700BBE00BCB00BC600BD700BCC00C4600C5600C4800CBF00CD500CC0",
    "00CC600CD500CC700CC600CD600CC800CC600CC200CCA00CCA00CD500CCB00D4600D3E00D4A",
    "00D4700D3E00D4B00D4600D5700D4C00DD900DCA00DDA00DD900DCF00DDC00DDC00DCA00DDD",
    "00DD900DDF00DDE010250102E0102601B0501B3501B0601B0701B3501B0801B0901B3501B0A",
    "01B0B01B3501B0C01B0D01B3501B0E01B1101B3501B1201B3A01B3501B3B01B3C01B3501B3D",
    "01B3E01B3501B4001B3F01B3501B4101B4201B3501B43000610032501E01000620030701E03",
    "000620032301E05000620033101E07000E70030101E09000640030701E0B000640032301E0D",
    "000640033101E0F000640032701E11000640032D01E13001130030001E15001130030101E17",
    "000650032D01E19000650033001E1B002290030601E1D000660030701E1F000670030401E21",
    "000680030701E23000680032301E25000680030801E27000680032701E29000680032E01E2B",
    "000690033001E2D000EF0030101E2F0006B0030101E310006B0032301E330006B0033101E35",
    "0006C0032301E3701E370030401E390006C0033101E3B0006C0032D01E3D0006D0030101E3F",
    "0006D0030701E410006D0032301E430006E0030701E450006E0032301E470006E0033101E49",
    "0006E0032D01E4B000F50030101E4D000F50030801E4F0014D0030001E510014D0030101E53",
    "000700030101E55000700030701E57000720030701E59000720032301E5B01E5B0030401E5D",
    "000720033101E5F000730030701E61000730032301E630015B0030701E65001610030701E67",
    "01E630030701E69000740030701E6B000740032301E6D000740033101E6F000740032D01E71",
    "000750032401E73000750033001E75000750032D01E77001690030101E790016B0030801E7B",
    "000760030301E7D000760032301E7F000770030001E81000770030101E83000770030801E85",
    "000770030701E87000770032301E89000780030701E8B000780030801E8D000790030701E8F",
    "0007A0030201E910007A0032301E930007A0033101E95000680033101E96000740030801E97",
    "000770030A01E98000790030A01E99000610032301EA1000610030901EA3000E20030101EA5",
    "000E20030001EA7000E20030901EA9000E20030301EAB01EA10030201EAD001030030101EAF",
    "001030030001EB1001030030901EB3001030030301EB501EA10030601EB7000650032301EB9",
    "000650030901EBB000650030301EBD000EA0030101EBF000EA0030001EC1000EA0030901EC3",
    "000EA0030301EC501EB90030201EC7000690030901EC9000690032301ECB0006F0032301ECD",
    "0006F0030901ECF000F40030101ED1000F40030001ED3000F40030901ED5000F40030301ED7",
    "01ECD0030201ED9001A10030101EDB001A10030001EDD001A10030901EDF001A10030301EE1",
    "001A10032301EE3000750032301EE5000750030901EE7001B00030101EE9001B00030001EEB",
    "001B00030901EED001B00030301EEF001B00032301EF1000790030001EF3000790032301EF5",
    "000790030901EF7000790030301EF9003B10031301F00003B10031401F0101F000030001F02",
    "01F010030001F0301F000030101F0401F010030101F0501F000034201F0601F010034201F07",
    "003B50031301F10003B50031401F1101F100030001F1201F110030001F1301F100030101F14",
    "01F110030101F15003B70031301F20003B70031401F2101F200030001F2201F210030001F23",
    "01F200030101F2401F210030101F2501F200034201F2601F210034201F27003B90031301F30",
    "003B90031401F3101F300030001F3201F310030001F3301F300030101F3401F310030101F35",
    "01F300034201F3601F310034201F37003BF0031301F40003BF0031401F4101F400030001F42",
    "01F410030001F4301F400030101F4401F410030101F45003C50031301F50003C50031401F51",
    "01F500030001F5201F510030001F5301F500030101F5401F510030101F5501F500034201F56",
    "01F510034201F57003C90031301F60003C90031401F6101F600030001F6201F610030001F63",
    "01F600030101F6401F610030101F6501F600034201F6601F610034201F67003B10030001F70",
    "003B50030001F72003B70030001F74003B90030001F76003BF0030001F78003C50030001F7A",
    "003C90030001F7C003B10030601FB0003B10030401FB1003B10034201FB6003B70034201FC6",
    "003B90030601FD0003B90030401FD1003CA0030001FD2003B90034201FD6003CA0034201FD7",
    "003C50030601FE0003C50030401FE1003CB0030001FE2003C10031301FE4003C10031401FE5",
    "003C50034201FE6003CB0034201FE7003C90034201FF602190003380219A02192003380219B",
    "0219400338021AE021D000338021CD021D400338021CE021D200338021CF022030033802204",
    "0220800338022090220B003380220C0222300338022240222500338022260223C0033802241",
    "0224300338022440224500338022470224800338022490226100338022620224D003380226D",
    "022640033802270022650033802271022720033802274022730033802275022760033802278",
    "0227700338022790227A00338022800227B0033802281022820033802284022830033802285",
    "022860033802288022870033802289022A200338022AC022A800338022AD022A900338022AE",
    "022AB00338022AF0227C00338022E00227D00338022E10229100338022E20229200338022E3",
    "022B200338022EA022B300338022EB022B400338022EC022B500338022ED0304B030990304C",
    "0304D030990304E0304F0309903050030510309903052030530309903054030550309903056",
    "03057030990305803059030990305A0305B030990305C0305D030990305E0305F0309903060",
    "0306103099030620306403099030650306603099030670306803099030690306F0309903070",
    "0306F0309A03071030720309903073030720309A03074030750309903076030750309A03077",
    "030780309903079030780309A0307A0307B030990307C0307B0309A0307D030460309903094",
    "0309D030990309E030AB03099030AC030AD03099030AE030AF03099030B0030B103099030B2",
    "030B303099030B4030B503099030B6030B703099030B8030B903099030BA030BB03099030BC",
    "030BD03099030BE030BF03099030C0030C103099030C2030C403099030C5030C603099030C7",
    "030C803099030C9030CF03099030D0030CF0309A030D1030D203099030D3030D20309A030D4",
    "030D503099030D6030D50309A030D7030D803099030D9030D80309A030DA030DB03099030DC",
    "030DB0309A030DD030A603099030F4030EF03099030F7030F003099030F8030F103099030F9",
    "030F203099030FA030FD03099030FE11099110BA1109A1109B110BA1109C110A5110BA110AB",
    "11131111271112E11132111271112F113471133E1134B11347113571134C114B9114BA114BB",
    "114B9114B0114BC114B9114BD114BE115B8115AF115BA115B9115AF115BB119351193011938"]

/-- Ranges of marks, each with the class by which marks behind a letter are put in
order. -/
def combiningClasses : List Nat :=
  Packed.numbers [
    "0030000314000E60031500315000E80031600319000DC0031A0031A000E80031B0031B000D8",
    "0031C00320000DC0032100322000CA0032300326000DC0032700328000CA0032900333000DC",
    "003340033800001003390033C000DC0033D00346000E60034700349000DC0034A0034C000E6",
    "0034D0034E000DC0035000352000E60035300356000DC0035700357000E60035800358000E8",
    "003590035A000DC0035B0035B000E60035C0035C000E90035D0035E000EA0035F0035F000E9",
    "0036000361000EA0036200362000E9003630036F000E60048300487000E60059100591000DC",
    "0059200595000E60059600596000DC0059700599000E60059A0059A000DE0059B0059B000DC",
    "0059C005A1000E6005A2005A7000DC005A8005A9000E6005AA005AA000DC005AB005AC000E6",
    "005AD005AD000DE005AE005AE000E4005AF005AF000E6005B0005B00000A005B1005B10000B",
    "005B2005B20000C005B3005B30000D005B4005B40000E005B5005B50000F005B6005B600010",
    "005B7005B700011005B8005B800012005B9005BA00013005BB005BB00014005BC005BC00015",
    "005BD005BD00016005BF005BF00017005C1005C100018005C2005C200019005C4005C4000E6",
    "005C5005C5000DC005C7005C7000120061000617000E600618006180001E00619006190001F",
    "0061A0061A000200064B0064B0001B0064C0064C0001C0064D0064D0001D0064E0064E0001E",
    "0064F0064F0001F0065000650000200065100651000210065200652000220065300654000E6",
    "0065500656000DC006570065B000E60065C0065C000DC0065D0065E000E60065F0065F000DC",
    "006700067000023006D6006DC000E6006DF006E2000E6006E3006E3000DC006E4006E4000E6",
    "006E7006E8000E6006EA006EA000DC006EB006EC000E6006ED006ED000DC007110071100024",
    "0073000730000E60073100731000DC0073200733000E60073400734000DC0073500736000E6",
    "0073700739000DC0073A0073A000E60073B0073C000DC0073D0073D000E60073E0073E000DC",
    "0073F00741000E60074200742000DC0074300743000E60074400744000DC0074500745000E6",
    "0074600746000DC0074700747000E60074800748000DC007490074A000E6007EB007F1000E6",
    "007F2007F2000DC007F3007F3000E6007FD007FD000DC0081600819000E60081B00823000E6",
    "0082500827000E6008290082D000E6008590085B000DC0089800898000E6008990089B000DC",
    "0089C0089F000E6008CA008CE000E6008CF008D3000DC008D4008E1000E6008E3008E3000DC",
    "008E4008E5000E6008E6008E6000DC008E7008E8000E6008E9008E9000DC008EA008EC000E6",
    "008ED008EF000DC008F0008F00001B008F1008F10001C008F2008F20001D008F3008F5000E6",
    "008F6008F6000DC008F7008F8000E6008F9008FA000DC008FB008FF000E60093C0093C00007",
    "0094D0094D000090095100951000E60095200952000DC0095300954000E6009BC009BC00007",
    "009CD009CD00009009FE009FE000E600A3C00A3C0000700A4D00A4D0000900ABC00ABC00007",
    "00ACD00ACD0000900B3C00B3C0000700B4D00B4D0000900BCD00BCD0000900C3C00C3C00007",
    "00C4D00C4D0000900C5500C550005400C5600C560005B00CBC00CBC0000700CCD00CCD00009",
    "00D3B00D3C0000900D4D00D4D0000900DCA00DCA0000900E3800E390006700E3A00E3A00009",
    "00E4800E4B0006B00EB800EB90007600EBA00EBA0000900EC800ECB0007A00F1800F19000DC",
    "00F3500F35000DC00F3700F37000DC00F3900F39000D800F7100F710008100F7200F7200082",
    "00F7400F740008400F7A00F7D0008200F8000F800008200F8200F83000E600F8400F8400009",
    "00F8600F87000E600FC600FC6000DC010370103700007010390103A000090108D0108D000DC",
    "0135D0135F000E6017140171500009017340173400009017D2017D200009017DD017DD000E6",
    "018A9018A9000E40193901939000DE0193A0193A000E60193B0193B000DC01A1701A17000E6",
    "01A1801A18000DC01A6001A600000901A7501A7C000E601A7F01A7F000DC01AB001AB4000E6",
    "01AB501ABA000DC01ABB01ABC000E601ABD01ABD000DC01ABF01AC0000DC01AC101AC2000E6",
    "01AC301AC4000DC01AC501AC9000E601ACA01ACA000DC01ACB01ACE000E601B3401B3400007",
    "01B4401B440000901B6B01B6B000E601B6C01B6C000DC01B6D01B73000E601BAA01BAB00009",
    "01BE601BE60000701BF201BF30000901C3701C370000701CD001CD2000E601CD401CD400001",
    "01CD501CD9000DC01CDA01CDB000E601CDC01CDF000DC01CE001CE0000E601CE201CE800001",
    "01CED01CED000DC01CF401CF4000E601CF801CF9000E601DC001DC1000E601DC201DC2000DC",
    "01DC301DC9000E601DCA01DCA000DC01DCB01DCC000E601DCD01DCD000EA01DCE01DCE000D6",
    "01DCF01DCF000DC01DD001DD0000CA01DD101DF5000E601DF601DF6000E801DF701DF8000E4",
    "01DF901DF9000DC01DFA01DFA000DA01DFB01DFB000E601DFC01DFC000E901DFD01DFD000DC",
    "01DFE01DFE000E601DFF01DFF000DC020D0020D1000E6020D2020D300001020D4020D7000E6",
    "020D8020DA00001020DB020DC000E6020E1020E1000E6020E5020E600001020E7020E7000E6",
    "020E8020E8000DC020E9020E9000E6020EA020EB00001020EC020EF000DC020F0020F0000E6",
    "02CEF02CF1000E602D7F02D7F0000902DE002DFF000E60302A0302A000DA0302B0302B000E4",
    "0302C0302C000E80302D0302D000DE0302E0302F000E0030990309A000080A66F0A66F000E6",
    "0A6740A67D000E60A69E0A69F000E60A6F00A6F1000E60A8060A806000090A82C0A82C00009",
    "0A8C40A8C4000090A8E00A8F1000E60A92B0A92D000DC0A9530A953000090A9B30A9B300007",
    "0A9C00A9C0000090AAB00AAB0000E60AAB20AAB3000E60AAB40AAB4000DC0AAB70AAB8000E6",
    "0AABE0AABF000E60AAC10AAC1000E60AAF60AAF6000090ABED0ABED000090FB1E0FB1E0001A",
    "0FE200FE26000E60FE270FE2D000DC0FE2E0FE2F000E6101FD101FD000DC102E0102E0000DC",
    "103761037A000E610A0D10A0D000DC10A0F10A0F000E610A3810A38000E610A3910A3900001",
    "10A3A10A3A000DC10A3F10A3F0000910AE510AE5000E610AE610AE6000DC10D2410D27000E6",
    "10EAB10EAC000E610EFD10EFF000DC10F4610F47000DC10F4810F4A000E610F4B10F4B000DC",
    "10F4C10F4C000E610F4D10F50000DC10F8210F82000E610F8310F83000DC10F8410F84000E6",
    "10F8510F85000DC1104611046000091107011070000091107F1107F00009110B9110B900009",
    "110BA110BA000071110011102000E6111331113400009111731117300007111C0111C000009",
    "111CA111CA00007112351123500009112361123600007112E9112E900007112EA112EA00009",
    "1133B1133C000071134D1134D000091136611374000E6114421144200009114461144600007",
    "1145E1145E000E6114C2114C200009114C3114C300007115BF115BF00009115C0115C000007",
    "1163F1163F00009116B6116B600009116B7116B7000071172B1172B00009118391183900009",
    "1183A1183A000071193D1193E00009119431194300007119E0119E00000911A3411A3400009",
    "11A4711A470000911A9911A990000911C3F11C3F0000911D4211D420000711D4411D4500009",
    "11D9711D970000911F4111F420000916AF016AF40000116B3016B36000E616FF016FF100006",
    "1BC9E1BC9E000011D1651D166000D81D1671D169000011D16D1D16D000E21D16E1D172000D8",
    "1D17B1D182000DC1D1851D189000E61D18A1D18B000DC1D1AA1D1AD000E61D2421D244000E6",
    "1E0001E08F000E61E1301E136000E61E2AE1E2AE000E61E2EC1E2EF000E61E4EC1E4ED000E8",
    "1E4EE1E4EE000DC1E4EF1E4EF000E61E8D01E8D6000DC1E9441E949000E61E94A1E94A00007"]

end TapeDuel.Net.Domain

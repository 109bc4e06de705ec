/-! The general categories of all code points as one text: for each run its category, with an `a`
behind it for letters that the category alone does not tell, and the length of the run unless it is
one. -/

namespace WireCodecs.Text

def categoryText : List String := [
  "Cc32ZsPo3ScPo3PsPePoSmPoPdPo2Nd10Po2Sm3Po2Lu26PsPoPeSkPcSkLl26PsSmPeSmCc33ZsPoSc4SoPoSkSoLoPi",
  "SmCfSoSkSoSmNo2SkLlPo2SkNoLoPfNo3PoLu23SmLu7Ll24SmLl8LuLlLuLlLuLlLuLlLuLlLuLlLuLlLuLlLuLlLuLl",
  "LuLlLuLlLuLlLuLlLuLlLuLlLuLlLuLlLuLlLuLlLuLlLuLlLuLlLuLlLuLlLuLlLuLlLuLl2LuLlLuLlLuLlLuLlLuLl",
  "LuLlLuLlLuLl2LuLlLuLlLuLlLuLlLuLlLuLlLuLlLuLlLuLlLuLlLuLlLuLlLuLlLuLlLuLlLuLlLuLlLuLlLuLlLuLl",
  "LuLlLuLlLuLlLu2LlLuLlLuLl3Lu2LlLuLlLu2LlLu3Ll2Lu4LlLu2LlLu3Ll3Lu2LlLu2LlLuLlLuLlLu2LlLuLl2LuLl",
  "Lu2LlLu3LlLuLlLu2Ll2LoLuLl3Lo4LuLtLlLuLtLlLuLtLlLuLlLuLlLuLlLuLlLuLlLuLlLuLlLuLl2LuLlLuLlLuLl",
  "LuLlLuLlLuLlLuLlLuLlLuLl2LuLtLlLuLlLu3LlLuLlLuLlLuLlLuLlLuLlLuLlLuLlLuLlLuLlLuLlLuLlLuLlLuLlLu",
  "LlLuLlLuLlLuLlLuLlLuLlLuLlLuLlLuLlLuLlLuLlLuLlLuLlLuLlLuLlLuLl7Lu2LlLu2Ll2LuLlLu4LlLuLlLuLlLu",
  "LlLuLl69Lo2Ll26Lm18Sk4Lm12Sk14Lm5Sk7LmSkLmSk17Mn69MnaMn29Mna13LuLlLuLlLmSkLuLlCn2LmLl3PoLuCn4",
  "Sk2LuPoLu3CnLuCnLu2LlLu17CnLu9Ll35LuLl2Lu3Ll3LuLlLuLlLuLlLuLlLuLlLuLlLuLlLuLlLuLlLuLlLuLlLuLl5",
  "LuLlSmLuLlLu2Ll2Lu51Ll48LuLlLuLlLuLlLuLlLuLlLuLlLuLlLuLlLuLlLuLlLuLlLuLlLuLlLuLlLuLlLuLlLuLlSo",
  "Mn5Me2LuLlLuLlLuLlLuLlLuLlLuLlLuLlLuLlLuLlLuLlLuLlLuLlLuLlLuLlLuLlLuLlLuLlLuLlLuLlLuLlLuLlLuLl",
  "LuLlLuLlLuLlLuLlLuLlLu2LlLuLlLuLlLuLlLuLlLuLlLuLl2LuLlLuLlLuLlLuLlLuLlLuLlLuLlLuLlLuLlLuLlLuLl",
  "LuLlLuLlLuLlLuLlLuLlLuLlLuLlLuLlLuLlLuLlLuLlLuLlLuLlLuLlLuLlLuLlLuLlLuLlLuLlLuLlLuLlLuLlLuLlLu",
  "LlLuLlLuLlLuLlLuLlLuLlLuLlLuLlLuLlLuLlLuLlLuLlLuLlLuLlCnLu38Cn2LmPo6Ll41PoPdCn2So2ScCnMn31",
  "Mna14PdMnaPoMna2PoMna2PoMnaCn8Lo27Cn4Lo4Po2Cn11Cf6Sm3Po2ScPo2So2Mna11PoCfPo3Lo32LmLo10Mna13Mn",
  "Mna7Nd10Po4Lo2MnaLo99PoLoMna7CfSoMn2Mna4Lm2Mna2SoMn3MnaLo2Nd10Lo3So2LoPo14CnCfLoMnaLo30Mna16",
  "Mn11Cn2Lo89Mna11LoCn14Nd10Lo33Mn9Lm2SoPo3LmCn2MnSc2Lo22Mna2Mn2LmMna9LmMna3LmMna4MnCn2Po15Cn",
  "Lo25Mn3Cn2PoCnLo11Cn5Lo24SkLo7Cf2Cn5MnaMn8Lo41LmMn10Mna12Mn2CfMna7Mn6Mna19McaLo54MnaMcaMnLo",
  "Mca3Mna8Mca4MnMca2LoMn4Mna3Lo10Mna2Po2Nd10PoLmLo15MnaMca2CnLo8Cn2Lo2Cn2Lo22CnLo7CnLoCn3Lo4Cn2",
  "MnLoMca3Mna4Cn2Mca2Cn2Mca2MnLoCn8McaCn4Lo2CnLo3Mna2Cn2Nd10Lo2Sc2No6SoScLoPoMnCn2Mna2McaCnLo6",
  "Cn4Lo2Cn2Lo22CnLo7CnLo2CnLo2CnLo2Cn2MnCnMca3Mna2Cn4Mna2Cn2Mna2MnCn3MnaCn7Lo4CnLoCn7Nd10Mna2Lo3",
  "MnaPoCn10Mna2McaCnLo9CnLo3CnLo22CnLo7CnLo2CnLo5Cn2MnLoMca3Mna5CnMna2McaCnMca2MnCn2LoCn15Lo2",
  "Mna2Cn2Nd10PoScCn7LoMna3Mn3CnMnaMca2CnLo8Cn2Lo2Cn2Lo22CnLo7CnLo2CnLo5Cn2MnLoMcaMnaMcaMna4Cn2",
  "Mca2Cn2Mca2MnCn7MnMnaMcaCn4Lo2CnLo3Mna2Cn2Nd10SoLoNo6Cn10MnaLoCnLo6Cn3Lo3CnLo4Cn3Lo2CnLoCnLo2",
  "Cn3Lo2Cn3Lo3Cn3Lo12Cn4Mca2MnaMca2Cn3Mca3CnMca3MnCn2LoCn6McaCn14Nd10No3So6ScSoCn5MnaMca3MnaLo8",
  "CnLo3CnLo23CnLo16Cn2MnLoMna3Mca4CnMna3CnMna3MnCn7Mna2CnLo3CnLo2Cn2Lo2Mna2Cn2Nd10Cn7PoNo7SoLo",
  "MnaMca2PoLo8CnLo3CnLo23CnLo10CnLo5Cn2MnLoMcaMnaMca5CnMnaMca2CnMca2MnaMnCn7Mca2Cn5Lo3CnLo2Mna2",
  "Cn2Nd10CnLo2McaCn12Mna2Mca2Lo9CnLo3CnLo41Mn2LoMca3Mna4CnMca3CnMca3MnLoSoCn4Lo3McaNo7Lo3Mna2Cn2",
  "Nd10No9SoLo6CnMnaMca2CnLo18Cn3Lo24CnLo9CnLoCn2Lo7Cn3MnCn4Mca3Mna3CnMnaCnMca8Cn6Nd10Cn2Mca2Po",
  "Cn12Lo48MnaLo2Mna7Cn4ScLo6LmMn6MnaMnPoNd10Po2Cn37Lo2CnLoCnLo5CnLo24CnLoCnLo10MnaLo2Mna6MnMna2",
  "LoCn2Lo5CnLmCnMn5MnaMnCnNd10Cn2Lo4Cn32LoSo3Po15SoPoSo3Mn2So6Nd10No10SoMnSoMnSoMnPsPePsPeMc2Lo8",
  "CnLo36Cn4Mna14McaMna4MnPoMn2Lo5Mna11CnMna36CnSo8MnSo6CnSo2Po5So4Po2Cn37Lo43Mca2Mna4McaMna5Mn",
  "McaMn2Mca2Mna2LoNd10Po6Lo6Mca2Mna2Lo4Mna3LoMca3Lo2Mca7Lo3Mna4Lo13MnaMca2Mna2Mca6MnaLoMcaNd10",
  "Mca3MnaSo2Lu38CnLuCn5LuCn2Ll43PoLmLl3Lo329CnLo4Cn2Lo7CnLoCnLo4Cn2Lo41CnLo4Cn2Lo33CnLo4Cn2Lo7Cn",
  "LoCnLo4Cn2Lo15CnLo57CnLo4Cn2Lo67Cn2Mn3Po9No20Cn3Lo16So10Cn6Lu86Cn2Ll6Cn2PdLo620SoPoLo17ZsLo26",
  "PsPeCn3Lo75Po3Nl3Lo8Cn7Lo18Mna2MnMcCn9Lo19Mna2McPo2Cn9Lo18Mna2Cn12Lo13CnLo3CnMna2Cn12Lo52Mn2",
  "McaMna7Mca8MnaMca2Mn11Po3LmPo3ScLoMnCn2Nd10Cn6No10Cn6Po6PdPo4Mn3CfMnNd10Cn6Lo35LmLo53Cn7Lo5",
  "Mna2Lo34MnaLoCn5Lo70Cn10Lo31CnMna3Mca4Mna2Mca3Cn4Mca2MnaMca6Mn3Cn4SoCn3Po2Nd10Lo30Cn2Lo5Cn11",
  "Lo44Cn4Lo26Cn6Nd10NoCn3So34Lo23Mna2Mca2MnaCn2Po2Lo53McaMnaMcaMna7CnMnMcaMnaMca2Mna8Mca6Mna2Mn8",
  "Cn2MnNd10Cn6Nd10Cn6Po7LmPo6Cn2Mn14MeMna2Mn11Mna3Mn15Cn2Mn12Cn20Mna4McaLo47MnMcaMna5McaMnaMca5",
  "MnaMcaMcLo8CnPo2Nd10Po7So10Mn9So9Po3Mna2McaLo30McaMna4Mca2Mna2McMnMna2Lo2Nd10Lo44MnMcaMna2Mca3",
  "MnaMcaMna3Mc2Cn8Po4Lo36Mca8Mna8Mca2MnaMnCn3Po5Nd10Cn3Lo3Nd10Lo30Lm6Po2Ll9LuLlCn5Lu43Cn2Lu3Po8",
  "Cn8Mn3PoMn13McMn7Lo4MnLo6MnLo2McMn2LoCn5Ll44Lm63Ll13LmLl34Lm37Mn19Mna34Mn11LuLlLuLlLuLlLuLlLu",
  "LlLuLlLuLlLuLlLuLlLuLlLuLlLuLlLuLlLuLlLuLlLuLlLuLlLuLlLuLlLuLlLuLlLuLlLuLlLuLlLuLlLuLlLuLlLuLl",
  "LuLlLuLlLuLlLuLlLuLlLuLlLuLlLuLlLuLlLuLlLuLlLuLlLuLlLuLlLuLlLuLlLuLlLuLlLuLlLuLlLuLlLuLlLuLlLu",
  "LlLuLlLuLlLuLlLuLlLuLlLuLlLuLlLuLlLuLlLuLlLuLlLuLlLuLlLuLlLuLlLuLlLuLlLuLlLuLlLuLlLuLlLuLlLu",
  "Ll9LuLlLuLlLuLlLuLlLuLlLuLlLuLlLuLlLuLlLuLlLuLlLuLlLuLlLuLlLuLlLuLlLuLlLuLlLuLlLuLlLuLlLuLlLu",
  "LlLuLlLuLlLuLlLuLlLuLlLuLlLuLlLuLlLuLlLuLlLuLlLuLlLuLlLuLlLuLlLuLlLuLlLuLlLuLlLuLlLuLlLuLlLuLl",
  "LuLlLuLlLuLl9Lu8Ll6Cn2Lu6Cn2Ll8Lu8Ll8Lu8Ll6Cn2Lu6Cn2Ll8CnLuCnLuCnLuCnLuLl8Lu8Ll14Cn2Ll8Lt8Ll8",
  "Lt8Ll8Lt8Ll5CnLl2Lu4LtSkLlSk3Ll3CnLl2Lu4LtSk3Ll4Cn2Ll2Lu4CnSk3Ll8Lu5Sk3Cn2Ll3CnLl2Lu4LtSk2Cn",
  "Zs11Cf5Pd6Po2PiPfPsPi2PfPsPiPo8ZlZpCf5ZsPo9PiPfPo4Pc2Po3SmPsPePo11SmPoPcPo10ZsCf5CnCf10NoLmCn2",
  "No6Sm3PsPeLmNo10Sm3PsPeCnLm13Cn3Sc34Cn14Mn13Me4MnMe3Mn12Cn15So2LuSo4LuSo2LlLu3Ll2Lu3LlSoLuSo2",
  "SmLu5So6LuSoLuSoLuSoLu4SoLlLu4LlLo4LlSo2Ll2Lu2Sm5LuLl4SoSmSo2LlSoNo16Nl35LuLlNl4NoSo2Cn4Sm5So5",
  "Sm2So4SmSo2SmSo2SmSo7SmSo31Sm2So2SmSoSmSo31Sm268So8PsPePsPeSo20Sm2So7PsPeSo81SmSo30Sm25So40Sm6",
  "So72Cn22So11Cn21No60So26Soa52No22So183SmSo9SmSo54Sm8So111SmSo248PsPePsPePsPePsPePsPePsPePsPe",
  "No30So44Sm5PsPeSm31PsPePsPePsPePsPePsPeSm16So256Sm131PsPePsPePsPePsPePsPePsPePsPePsPePsPePsPe",
  "PsPeSm63PsPePsPeSm32PsPeSm258So48Sm21So2Sm6So39Cn2So138Lu48Ll48LuLlLu3Ll2LuLlLuLlLuLlLu4LlLu",
  "Ll2LuLl6Lm2Lu3LlLuLlLuLlLuLlLuLlLuLlLuLlLuLlLuLlLuLlLuLlLuLlLuLlLuLlLuLlLuLlLuLlLuLlLuLlLuLlLu",
  "LlLuLlLuLlLuLlLuLlLuLlLuLlLuLlLuLlLuLlLuLlLuLlLuLlLuLlLuLlLuLlLuLlLuLlLuLlLuLlLuLlLuLlLuLlLuLl",
  "LuLlLuLlLuLlLuLlLuLlLuLl2So6LuLlLuLlMn3LuLlCn5Po4NoPo2Ll38CnLlCn5LlCn2Lo56Cn7LmPoCn14MnLo23Cn9",
  "Lo7CnLo7CnLo7CnLo7CnLo7CnLo7CnLo7CnLo7CnMna32Po2PiPfPiPfPo3PiPfPoPiPfPo9PdPo2PdPoPiPfPo2PiPfPs",
  "PePsPePsPePsPePo5LmPo10Pd2Po4PdPoPsPo13So2Po3PsPePsPePsPePsPePdCn34So26CnSo89Cn12So214Cn26So16",
  "ZsPo3SoLmLoNlPsPePsPePsPePsPePsPeSo2PsPePsPePsPePsPePdPsPe2SoNl9Mn4Mc2PdLm5So2Nl3LmLoPoSo2Cn",
  "Lo86Cn2Mn2Sk2Lm2LoPdLo90PoLm3LoCn5Lo43CnLo94CnSo2No4So10Lo32So38Cn9SoLo16So31CnNo10So30No8So",
  "No15So32No10So39No15So320Lo6592So64Lo21013LmLo1143Cn3So55Cn9Lo40Lm6Po2Lo268LmPo3Lo16Nd10Lo2",
  "Cn20LuLlLuLlLuLlLuLlLuLlLuLlLuLlLuLlLuLlLuLlLuLlLuLlLuLlLuLlLuLlLuLlLuLlLuLlLuLlLuLlLuLlLuLlLu",
  "LlLoMnMe3PoMna8Mn2PoLmLuLlLuLlLuLlLuLlLuLlLuLlLuLlLuLlLuLlLuLlLuLlLuLlLuLlLuLlLm2Mna2Lo70Nl10",
  "Mn2Po6Cn8Sk23Lm9Sk2LuLlLuLlLuLlLuLlLuLlLuLlLuLl3LuLlLuLlLuLlLuLlLuLlLuLlLuLlLuLlLuLlLuLlLuLlLu",
  "LlLuLlLuLlLuLlLuLlLuLlLuLlLuLlLuLlLuLlLuLlLuLlLuLlLuLlLuLlLuLlLuLlLuLlLuLlLuLlLmLl8LuLlLuLlLu2",
  "LlLuLlLuLlLuLlLuLlLmSk2LuLlLuLlLoLuLlLuLl3LuLlLuLlLuLlLuLlLuLlLuLlLuLlLuLlLuLlLuLlLu5LlLu5LlLu",
  "LlLuLlLuLlLuLlLuLlLuLlLuLlLu4LlLuLlLu2LlLuLlLuLlLuLlLuLlLuLlLuLlLuLlLuCn20Lm4LuLlLoLm2LlLo7Mna",
  "Lo3MnLo4MnaLo23Mca2Mna2McaSo4MnCn3No6So2ScSoCn6Lo52Po4Cn8Mca2Lo50Mca16MnMnaCn8Po2Nd10Cn6Mn18",
  "Lo6Po3LoPoLo2MnaNd10Lo28Mna5Mn3Po2Lo23Mna11McaMcCn11PoLo29Cn3Mna3McaLo47MnMca2Mna4Mca2Mna2Mca2",
  "McPo13CnLmNd10Cn4Po2Lo5MnaLmLo9Nd10Lo5CnLo41Mna6Mca2Mna2Mca2Mna2Cn9Lo3MnaLo8MnaMcaCn2Nd10Cn2",
  "Po4Lo16LmLo6So3LoMcaMnaMcaLo50MnaLoMna3Lo2Mna2Lo5MnaMnLoMnLoCn24Lo2LmPo2Lo11McaMna2Mca2Po2Lo",
  "Lm2McaMnCn10Lo6Cn2Lo6Cn2Lo6Cn9Lo7CnLo7CnLl43SkLm4Ll9LmSk2Cn4Ll80Lo35Mca2MnaMca2MnaMca2PoMcMn",
  "Cn2Nd10Cn6Lo11172Cn12Lo23Cn4Lo49Cn4Cs2048Co6400Lo366Cn2Lo106Cn38Ll7Cn12Ll5Cn5LoMnaLo10SmLo13Cn",
  "Lo5CnLoCnLo2CnLo2CnLo108Sk17So16Lo363PePsSo16Lo64So2Lo54So8Cn32Lo12ScSo3Mn16Po7PsPePoCn6Mn16Po",
  "Pd2Pc2PsPePsPePsPePsPePsPePsPePsPePsPePo2PsPePo4Pc3Po3CnPo4PdPsPePsPePsPePo3SmPdSm3CnPoScPo2",
  "Cn4Lo5CnLo135Cn2CfCnPo3ScPo3PsPePoSmPoPdPo2Nd10Po2Sm3Po2Lu26PsPoPeSkPcSkLl26PsSmPeSmPsPePoPsPe",
  "Po2Lo10LmLo45Lm2Lo31Cn3Lo6Cn2Lo6Cn2Lo6Cn2Lo3Cn3Sc2SmSkSoSc2CnSoSm4So2Cn10Cf3So2Cn2Lo12CnLo26Cn",
  "Lo19CnLo2CnLo15Cn2Lo14Cn34Lo123Cn5Po3Cn4No45Cn3So9Nl53No4So17No2So3CnSo13Cn3SoCn47So45MnCn130",
  "Lo29Cn3Lo49Cn15MnNo27Cn4Lo32No4Cn9Lo20NlLo8NlCn5Lo38Mna5Cn5Lo30CnPoLo36Cn4Lo8PoNl5Cn42Lu40Ll40",
  "Lo78Cn2Nd10Cn6Lu36Cn4Ll36Cn4Lo40Cn8Lo52Cn11PoLu11CnLu15CnLu7CnLu2CnLl11CnLl15CnLl7CnLl2Cn3Lo52",
  "Cn12Lo311Cn9Lo22Cn10Lo8Cn24Lm6CnLm42CnLm9Cn69Lo6Cn2LoCnLo44CnLo2Cn3LoCn2Lo23CnPoNo8Lo23So2No7",
  "Lo31Cn8No9Cn48Lo19CnLo2Cn5No5Lo22No6Cn3PoLo26Cn5PoLo26Cn38Lo56Cn4No2Lo2No16Cn2No46LoMna3CnMna2",
  "Cn5Mna4Lo4CnLo3CnLo29Cn2Mn3Cn4MnNo9Cn7Po9Cn7Lo29No2PoLo29No3Cn32Lo8SoLo28Mn2Cn4No5Po7Cn9Lo54",
  "Cn3Po7Lo22Cn2No8Lo19Cn5No8Lo18Cn7Po4Cn12No7Cn80Lo73Cn55Lu51Cn13Ll51Cn7No6Lo36Mna4Cn8Nd10Cn6",
  "Nd10Lo4LmLoLu22Cn3MnaMn4PdLmLl22Cn8Sm2Cn208No31CnLo42CnMna2PdCn2Lo2Cn16Lo3LmLo2Cn8PoSo8Cn33",
  "Mna3Mn3Lo29No10LoCn8Lo22Mn11No4Po5Cn22Lo18Mn4Po4Cn38Lo21No7Cn20Lo23Cn9McaMnaMcaLo53Mna14MnPo7",
  "Cn4No20Nd10MnLo2Mna2LoCn9MnMna2McaLo45Mca3Mna4Mca2Mn2Po2CfPo4MnaCn10CfCn2Lo25Cn7Nd10Cn6Mna3",
  "Lo36Mna5McaMna6Mn2CnNd10Po4LoMca2LoCn8Lo35MnPo2LoCn9Mna2McaLo48Mca3Mna9McaMcLo4Po4Mn4PoMcaMna",
  "Nd10LoPoLoPo3CnNo20Cn11Lo18CnLo25Mca3Mna3Mca2MnaMcMnMnaPo6MnaLo2MnaCn62Lo7CnLoCnLo4CnLo15Cn",
  "Lo10PoCn6Lo47MnaMca3Mna6Mn2Cn5Nd10Cn6Mna2Mca2CnLo8Cn2Lo2Cn2Lo22CnLo7CnLo2CnLo5CnMn2LoMca2Mna",
  "Mca4Cn2Mca2Cn2Mca2McCn2LoCn6McaCn5Lo5Mca2Cn2Mn7Cn3Mn5Cn11Lo10CnLoCn2LoCnLo38CnLoMca3Mna6CnMca",
  "Cn2McaCnMca4CnMca2MnMcMnLoMnLoPo2CnPo2Cn8Mn2Cn29Lo53Mca3Mna8Mca2MnMna2McaMnLo4Po5Nd10Po2CnPoMn",
  "Lo3Cn30Lo48Mca3Mna6McaMnaMca4Mna2McaMn2Lo2PoLoCn8Nd10Cn166Lo47Mca3Mna4Cn2Mca4Mna2McaMn2Po23Lo4",
  "Mna2Cn34Lo48Mca3Mna8Mca2MnaMcaMnMnaPo3LoCn11Nd10Cn6Po13Cn19Lo43MnaMcaMnaMca2Mna6McMnLoPoCn6",
  "Nd10Cn6Nd20Cn28Lo27Cn2MnaMcaMnaMca2Mna4McaMna4MnCn4Nd10No2Po3SoLo7Cn185Lo44Mca3Mna9McaMn2Po",
  "Cn100Lu32Ll32Nd10No9Cn12Lo8Cn2LoCn2Lo8CnLo2CnLo24Mca6CnMca2Cn2Mna2McMnLoMcaLoMcaMnPo3Cn9Nd10",
  "Cn70Lo8Cn2Lo39Mca3Mna4Cn2Mna2Mca4MnLoPoLoMcaCn27LoMna10Lo40Mn2Mna4McaLoMna4Po8MnCn8LoMna6Mca2",
  "Mna3Lo46Mna13McaMn2Po3LoPo5Cn13Lo73Cn7Po10Cn86MnaMcaMna3McaMnaMcaCn88Lo33PoCn14Nd10Cn6Lo9Cn",
  "Lo37McaMna7CnMna6McaMnLoPo5Cn10Nd10No19Cn3Po2Lo30Cn2Mna22CnMcaMna7McaMna2McaMna2Cn73Lo7CnLo2Cn",
  "Lo38Mna6Cn3MnaCnMna2CnMna3MnMnaMn2LoMnaCn8Nd10Cn6Lo6CnLo2CnLo32Mca5CnMna2CnMca2MnaMcaMnLoCn7",
  "Nd10Cn6Lo41LmLo2Cn4Nd10Cn246Lo19Mna2Mca2Po2Cn7Mna2LoMcaLo13CnLo34Mca2Mna5Cn3Mca2MnaMcMnPo13",
  "Nd10MnCn85LoCn15No21So8Sc4So17Cn13PoLo922Cn102Nl111CnPo5Cn11Lo196Cn2636Lo97Po2Cn13Lo1072Cf16Mn",
  "Lo6Mn15Cn10Lo3995Cn5Lo583Cn6841Lo30Mna12Mca3Mna2MnNd10Cn1734Lo569Cn7Lo31CnNd10Cn4Po2Lo79CnNd10",
  "Cn6Lo30Cn2Mn5PoCn10Lo48Mn7Po5So4Lm4PoSoCn10Nd10CnNo7CnLo21Cn5Lo19Cn432Lm3Lo40Lm2Po3Nd10Cn198",
  "Lu32Ll32No23Po4Cn5Lu25Cn2Ll25Cn44Lo75Cn4MnaLoMca55Cn7Mna4Lm13Cn64Lm2PoLmMnCn11Mca2Lm2Nl3Cn9",
  "Lo7382Cn41Lo32Cn97Lo115Cn8701Lm4CnLm7CnLm2CnLo291Cn15LoCn29Lo3Cn2LoCn14Lo4Cn8Lo396Cn2308Lo107",
  "Cn5Lo13Cn3Lo9Cn7Lo10Cn2SoMnMnaPoCf4Cn3932So240Nd10So3Cn3So436Cn6So23Cn15So16SmCn15Mn46Cn2Mn23",
  "Cn9So116Cn60So246Cn10So39Cn2So60Mc2Mn3So3Mc6Cf8Mn8So2Mn7So30Mn4So61Cn21So66Mn3SoCn122No20Cn12",
  "No20Cn12So87Cn9No25Cn135Lu26Ll26Lu26Ll7CnLl18Lu26Ll26LuCnLu2Cn2LuCn2Lu2Cn2Lu4CnLu8Ll4CnLlCnLl7",
  "CnLl11Lu26Ll26Lu2CnLu4Cn2Lu8CnLu7CnLl26Lu2CnLu4CnLu5CnLuCn3Lu7CnLl26Lu26Ll26Lu26Ll26Lu26Ll26",
  "Lu26Ll26Lu26Ll26Lu26Ll28Cn2Lu25SmLl25SmLl6Lu25SmLl25SmLl6Lu25SmLl25SmLl6Lu25SmLl25SmLl6Lu25Sm",
  "Ll25SmLl6LuLlCn2Nd50So512Mn55So4Mn50So8MnSo14MnSo2Po5Cn15Mn5CnMn15Cn1104Ll10LoLl20Cn6Ll6Cn213",
  "Mna7CnMna17Cn2Mna7CnMna2CnMna5Cn5Lm62Cn33MnaCn112Lo45Cn3Mn7Lm7Cn2Nd10Cn4LoSoCn320Lo30MnCn17",
  "Lo44Mn4Nd10Cn5ScCn464Lo27LmMn4Nd10Cn214Lo30Mn2LoNd10Cn4PoCn192Lo31CnLo3MnaLo2MnaLo7Mna2Lo5Mna",
  "Cn8LoLmCn224Lo7CnLo4CnLo2CnLo15CnLo197Cn2No9Mn7Cn41Lu34Ll34Mn3MnaMn3LmCn4Nd10Cn4Po2Cn785No59So",
  "No3ScNo4Cn76No45SoNo15Cn194Lo4CnLo27CnLo2CnLoCn2LoCnLo10CnLo4CnLoCnLoCn6LoCn4LoCnLoCnLoCnLo3Cn",
  "Lo2CnLoCn2LoCnLoCnLoCnLoCnLoCnLo2CnLoCn2Lo4CnLo7CnLo4CnLo4CnLoCnLo10CnLo17Cn5Lo3CnLo5CnLo17",
  "Cn52Sm2Cn270So44Cn4So100Cn12So15Cn2So15CnSo15CnSo37Cn10No13So35Soa26So6Soa26So6Soa26So36Cn56",
  "So29Cn13So44Cn4So9Cn7So2Cn14So6Cn154So251Sk5So729Cn3So17Cn3So13Cn3So218Cn6So12Cn4SoCn15So12Cn4",
  "So56Cn8So10Cn6So40Cn8So30Cn2So12Cn4So2Cn14Sm9Cn39So344Cn8So14Cn2So13Cn3So11Cn3So57CnSoCn4So16",
  "Cn2So12Cn4So10Cn7So147CnSo92Nd10SoCn1029Lo42720Cn32Lo4382Cn2Lo5774Cn2Lo7473Cn15Lo622Cn2466",
  "Lo542Cn1506Lo4939Cn5Lo8490Cn707463CfCn30Cf96Cn128Mn240Cn65040Co65534Cn2Co65534Cn2"]

end WireCodecs.Text

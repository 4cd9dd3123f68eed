/-!
Names of the characters beyond the basic plane. Each entry is a run
of code points: the first of them, and the names of all in order, each behind the count of characters
that it shares with the name before it. The text of the names is cut into lines of a table.
-/
namespace StructuredOutput.Text.CharName

def supplementNames : List (Nat × List String) :=
  [(0x10000, ["aLINEAR B SYLLABLE B008 Au38 Eu28 Iu61 Ou10 Uu01 DAu45 DEu07 DIu14 DOu51 DUv7 JAu",
     "46 JE"]),
   (0x1000d, ["aLINEAR B SYLLABLE B036 JOu65 JUu77 KAu44 KEu67 KIu70 KOu81 KUv0 MAu13 MEu73 MIu1",
     "5 MOu23 MUu06 NAu24 NEu30 NIu52 NOv5 NUu03 PAu72 PEu39 PIu11 POu50 PUu16 QAu78 QEu21 QIu32",
     " QO"]),
   (0x10028, ["aLINEAR B SYLLABLE B060 RAu27 REu53 RIu02 ROu26 RUu31 SAu09 SEu41 SIu12 SOu58 SUv",
     "9 TAu04 TEu37 TIu05 TOu69 TUu54 WAu75 WEu40 WIv2 WO"]),
   (0x1003c, ["aLINEAR B SYLLABLE B017 ZAu74 ZE"]),
   (0x1003f, ["aLINEAR B SYLLABLE B020 ZOv5 A2u43 A3u85 AUu71 DWEu90 DWOu48 NWAu29 PU2u62 PTEu76",
     " RA2u33 RA3u68 RO2v6 TA2u87 TWEu91 TWO"]),
   (0x10050, ["aLINEAR B SYMBOL B018t9s22s34s47t9s56s63t4s79s82t3t6t9"]),
   (0x10080, ["aLINEAR B IDEOGRAM B100 MANv2 WOMANv4 DEERv5 EQUIDwF MAREwM STALLIONv6F EWEwM RAM",
     "v7F SHE-GOATwM HE-GOATv8F SOWwM BOARv9F COWwM BULLu20 WHEATv1 BARLEYv2 OLIVEv3 SPICEv5 CYP",
     "ERUSjMONOGRAM B127 KAPOv8 KANAKOjIDEOGRAM B130 OILv1 WINEv2jMONOGRAM B133 AREPAv5 MERIjIDE",
     "OGRAM B140 BRONZEv1 GOLDv2v5 WOOLv6u50v1 HORNv2v3v4jMONOGRAM B156 TURO2jIDEOGRAM B157v8v9 ",
     "CLOTHu60v1v2 GARMENTv3 ARMOURv4v5v6v7v8v9u70v1v2v3 MONTHv4v6 TREEv7v8v9u80v1v2v3v4v5v9u90v",
     "1 HELMETt220 FOOTSTOOLv5 BATHTUBu30 SPEARv1 ARROWv2v3 SWORDv4v6u40 WHEELED CHARIOTv1 CHARI",
     "OTv2 CHARIOT FRAMEv3 WHEELv5v6jMONOGRAM B247 DIPTEjIDEOGRAM B248v9u51v2v3v4 DARTv5v6v7v8v9",
     "sVESSEL B155ba200bc1bc2bc3bc4bc5bc6bc7bc8bc9bb10bc1bc2bc3bc4bc5bc6bc7bc8bc9bb21bc2bc6bc7bc",
     "8bc9bb50ba305"]),
   (0x10100, ["aAEGEAN WORD SEPARATOR LINEwDOThCHECK MARK"]),
   (0x10107, ["aAEGEAN NUMBER ONEoTWOpHREEoFOURpIVEoSIXpEVENoEIGHToNINEoTENpWENTYpHIRTYoFORTYpIF",
     "TYoSIXTYpEVENTYoEIGHTYoNINETYoONE HUNDREDoTWO HUNDREDpHREE HUNDREDoFOUR HUNDREDpIVE HUNDRE",
     "DoSIX HUNDREDpEVEN HUNDREDoEIGHT HUNDREDoNINE HUNDREDoONE THOUSANDoTWO THOUSANDpHREE THOUS",
     "ANDoFOUR THOUSANDpIVE THOUSANDoSIX THOUSANDpEVEN THOUSANDoEIGHT THOUSANDoNINE THOUSANDoTEN",
     " THOUSANDpWENTY THOUSANDpHIRTY THOUSANDoFORTY THOUSANDpIFTY THOUSANDoSIXTY THOUSANDpEVENTY",
     " THOUSANDoEIGHTY THOUSANDoNINETY THOUSAND"]),
   (0x10137, ["aAEGEAN WEIGHT BASE UNIToFIRST SUBUNIToSECOND SUBUNIToTHIRD SUBUNIToFOURTH SUBUNI",
     "ThDRY MEASURE FIRST SUBUNIThLIQUID MEASURE FIRST SUBUNIThMEASURE SECOND SUBUNITpTHIRD SUBU",
     "NITaGREEK ACROPHONIC ATTIC ONE QUARTERbbHALFbbDRACHMAxFIVEzFTYzVE HUNDREDbcTHOUSANDzFTY TH",
     "OUSANDzVE TALENTSxTEN TALENTSxFIFTY TALENTSxONE HUNDRED TALENTSxFIVE HUNDRED TALENTSxONE T",
     "HOUSAND TALENTSxFIVE THOUSAND TALENTSbcSTATERSxTEN STATERSxFIFTY STATERSxONE HUNDRED STATE",
     "RSxFIVE HUNDRED STATERSxONE THOUSAND STATERSxTEN THOUSAND STATERSxFIFTY THOUSAND STATERSxT",
     "EN MNASrHERAEUM ONE PLETHRONrTHESPIAN ONErHERMIONIAN ONErEPIDAUREAN TWOrTHESPIAN TWOrCYREN",
     "AIC TWO DRACHMASrEPIDAUREAN TWO DRACHMASrTROEZENIAN FIVEbcTENbf ALTERNATE FORMrHERMIONIAN ",
     "TENrMESSENIAN TENrTHESPIAN TENbbHIRTYsROEZENIAN FIFTYbh ALTERNATE FORMrHERMIONIAN FIFTYrTH",
     "ESPIAN FIFTYbaONE HUNDREDbaTHREE HUNDREDrEPIDAUREAN FIVE HUNDREDrTROEZENIAN FIVE HUNDREDsH",
     "ESPIAN FIVE HUNDREDrCARYSTIAN FIVE HUNDREDrNAXIAN FIVE HUNDREDrTHESPIAN ONE THOUSANDbaFIVE",
     " THOUSANDrDELPHIC FIVE MNASrSTRATIAN FIFTY MNASgONE HALF SIGNt ALTERNATE FORMgTWO THIRDS S",
     "IGNhHREE QUARTERS SIGNgYEAR SIGNgTALENT SIGNgDRACHMA SIGNgOBOL SIGNgTWO OBOLS SIGNhHREE OB",
     "OLS SIGNgFOUR OBOLS SIGNhIVE OBOLS SIGNgMETRETES SIGNgKYATHOS BASE SIGNgLITRA SIGNgOUNKIA ",
     "SIGNgXESTES SIGNgARTABE SIGNiOURA SIGNgGRAMMA SIGNgTRYBLION BASE SIGNgZERO SIGNgONE QUARTE",
     "R SIGNgSINUSOID SIGNgINDICTION SIGNaNOMISMA SIGN"]),
   (0x10190, ["aROMAN SEXTANS SIGNgUNCIA SIGNgSEMUNCIA SIGNiXTULA SIGNgDIMIDIA SEXTULA SIGNgSILI",
     "QUA SIGNgDENARIUS SIGNgQUINARIUS SIGNgSESTERTIUS SIGNgDUPONDIUS SIGNgAS SIGNgCENTURIAL SIG",
     "NaASCIA SYMBOL"]),
   (0x101a0, ["aGREEK SYMBOL TAU RHO"]),
   (0x101d0, ["aPHAISTOS DISC SIGN PEDESTRIANuLUMED HEADtTATTOOED HEADtCAPTIVEuHILDtWOMANtHELMET",
     "tGAUNTLETtTIARAtARROWtBOWtSHIELDtCLUBtMANACLESvTTOCKtSAWtLIDtBOOMERANGtCARPENTRY PLANEtDOL",
     "IUMtCOMBtSLINGtCOLUMNtBEEHIVEtSHIPtHORNuIDEtBULLS LEGtCATtRAMtEAGLEtDOVEtTUNNYtBEEtPLANE T",
     "REEtVINEtPAPYRUStROSETTEtLILYtOX BACKtFLUTEtGRATERtSTRAINERuMALL AXEtWAVY BANDtCOMBINING O",
     "BLIQUE STROKE"]),
   (0x10280, ["aLYCIAN LETTER AoEoBpHoGoDoIoWoZoTHoJoKoQoLoMoNoMMoNNoUoPoKKoRoSoTpToANoENoHoX"]),
   (0x102a0, ["aCARIAN LETTER AoP2oDoLoUUUoRoLDoA2oQoBoMoOoD2oToSHq2oSoC-18oUoNNoXoNoTT2oPoSSoIo",
     "EoUUUUoKp2oNDoUUoGp2oSTq2oNGoIIoC-39oTToUUU2oRRoMBq2q3q4oLD2oE2oUUU3"]),
   (0x102e0, ["aCOPTIC EPACT THOUSANDS MARKnDIGIT ONEtTWOuHREEtFOURuIVEtSIXuEVENtEIGHTtNINEnNUMB",
     "ER TENvWENTYvHIRTYuFORTYvIFTYuSIXTYvEVENTYuEIGHTYuNINETYuONE HUNDREDuTWO HUNDREDvHREE HUND",
     "REDuFOUR HUNDREDvIVE HUNDREDuSIX HUNDREDvEVEN HUNDREDuEIGHT HUNDREDuNINE HUNDRED"]),
   (0x10300, ["aOLD ITALIC LETTER AsBEsKEsDEsEsVEsZEsHEsTHEsIsKAsELtMtNtSHsOsPEsSHEsKUsERtSsTEsU",
     "sEKSsPHEsKHEsEFtRSsCHEsIIsUUsESSlNUMERAL ONEtFIVEtTENtFIFTY"]),
   (0x1032d, ["aOLD ITALIC LETTER YEsNORTHERN TSEsSOUTHERN TSEaGOTHIC LETTER AHSAoBAIRKANoGIBAoD",
     "AGSoAIHVUSoQAIRTHRAoIUJAoHAGLoTHIUTHoEISoKUSMAoLAGUSoMANNAoNAUTHSoJERoURUSoPAIRTHRAoNINETY",
     "oRAIDAoSAUILoTEIWSoWINJAoFAIHUoIGGWSoHWAIRoOTHALoNINE HUNDRED"]),
   (0x10350, ["aOLD PERMIC LETTER ANsBURsGAIsDOIsEsZHOIsDZHOIsZATAsDZITAsIsKOKEsLEIsMENOEsNENOEs",
     "VOOIsPEEIsREIsSIIsTAIsUsCHERYsSHOOIuCHOOIsYRYtERUsOtOsEFsHAsTSIUsVERsYERvItATsIEsYUtAsIAaC",
     "OMBINING OLD PERMIC LETTER ANbcDOIbcZATAbcNENOEbcSII"]),
   (0x10380, ["aUGARITIC LETTER ALPAqBETAqGAMLAqKHAqDELTAqHOqWOqZETAqHOTAqTETqYODqKAFqSHINqLAMDA",
     "qMEMqDHALqNUNqZUqSAMKAqAINqPUqSADEqQOPAqRASHAqTHANNAqGHAINqTOqIqUqSSU"]),
   (0x1039f, ["aUGARITIC WORD DIVIDERaOLD PERSIAN SIGN ArIrUrKAsUrGAsUrXArCArJAsIrTAsUrDAsIsUrTH",
     "ArPArBArFArNAsUrMAsIsUrYArVAsIrRAsUrLArSArZArSHAsSArHA"]),
   (0x103c8, ["aOLD PERSIAN SIGN AURAMAZDAAbb-2bbHArXSHAAYATHIYArDAHYAAUSHba-2rBAGAsUUMISHmWORD ",
     "DIVIDERmNUMBER ONEtTWOuENuWENTYtHUNDRED"]),
   (0x10400, ["aDESERET CAPITAL LETTER LONG IbcEbcAbdHbcObdOxSHORT IbdEbdAbeHbdObeOxAYxOWxWUxYEE",
     "xHxPEExBEExTEExDEExCHEExJEExKAYxGAYxEFxVEExETHxTHEExESxZEExESHxZHEExERyLyMyNzGxOIxEWiSMALL",
     " LETTER LONG IbaEbaAbbHbaObbOvSHORT IbbEbbAbcHbbObcOvAYvOWvWUvYEEvHvPEEvBEEvTEEvDEEvCHEEvJ",
     "EEvKAYvGAYvEFvVEEvETHvTHEEvESvZEEvESHvZHEEvERwLwMwNxGvOIvEWaSHAVIAN LETTER PEEPpTOTpKICKpF",
     "EEpTHIGHpSOqUREpCHURCHpYEApHUNGpBIBpDEADpGAGpVOWpTHEYpZOOpMEASUREpJUDGEpWOEpHA-HApLOLLpMIM",
     "EpIFpEGGpASHqDOpONpWOOLpOUTpAHpROARpNUNpEATpAGEpICEpUPpOAKqOZEqILpAWEqREpORpAIRpERRpARRAYp",
     "EARpIANpYEWaOSMANYA LETTER ALEFpBApTApJApXApKHApDEELpRApSAqHIINpDHApCAYNpGApFApQAAFpKAAFpL",
     "AANpMIINpNUUNpWAWpHApYApApEpIpOpUpAApEEpOO"]),
   (0x104a0, ["aOSMANYA DIGIT ZEROoONEoTWOpHREEoFOURpIVEoSIXpEVENoEIGHToNINE"]),
   (0x104b0, ["aOSAGE CAPITAL LETTER AwIxNwHvBRAvCHAvEHCHAvEwINvHAwYAvIvKAvEHKAvKYAvLAvMAvNAvOwI",
     "NvPAvEHPAvSAwHAvTAvEHTAvTSAvEHTSAvTSHAvDHAvUvWAvKHAvGHAvZAwHA"]),
   (0x104d8, ["aOSAGE SMALL LETTER AuIvNuHtBRAtCHAtEHCHAtEuINtHAuYAtItKAtEHKAtKYAtLAtMAtNAtOuINt",
     "PAtEHPAtSAuHAtTAtEHTAtTSAtEHTSAtTSHAtDHAtUtWAtKHAtGHAtZAuHA"]),
   (0x10500, ["aELBASAN LETTER ApBEpCEqHEpDEpNDEpDHEpEIpEpFEpGEqJEpHEpIpJEpKEpLEqLEpMEpNEqAqJEpO",
     "pPEpQEpREqREpSEqHEpTEqHEpUpVEpXEpYpZEqHEpGHErAMMApKHE"]),
   (0x10530, ["aCAUCASIAN ALBANIAN LETTER ALTbaBETbaGIMbaDATbaEBbaZARLbaEYNbaZHILbaTASbaCHAbaYOW",
     "DbaZHAbaIRBbaSHAbaLANbaINYAbaXEYNbaDYANbaCARbaJHOXbaKARbaLYITbaHEYTbaQAYbaAORbaCHOYbcIbbYA",
     "YbaMAQbaQARbaNOWCbaDZYAYbaSHAKbaJAYNbaONbaTYAYbaFAMbaDZAYbaCHATbaPENbaGHEYSbaRATbaSEYKbaVE",
     "YZbaTIWRbaSHOYbaIWNbaCYAWbbAYNbaYAYDbaPIWRbaKIW"]),
   (0x1056f, ["aCAUCASIAN ALBANIAN CITATION MARKaVITHKUQI CAPITAL LETTER AyBBEzEyCEzHEyDEzHEyEIy",
     "EyFEyGA"]),
   (0x1057c, ["aVITHKUQI CAPITAL LETTER HAzHAyIzJEyJEyKAyLAzLAyMEyNEzJEyOyPEyQAyRE"]),
   (0x1058c, ["aVITHKUQI CAPITAL LETTER SEzHEyTEzHEyUyVEyXE"]),
   (0x10594, ["aVITHKUQI CAPITAL LETTER YyZE"]),
   (0x10597, ["aVITHKUQI SMALL LETTER AwBBExEwCExHEwDExHEwEIwEwFEwGA"]),
   (0x105a3, ["aVITHKUQI SMALL LETTER HAxHAwIxJEwJEwKAwLAxLAwMEwNExJEwOwPEwQAwRE"]),
   (0x105b3, ["aVITHKUQI SMALL LETTER SExHEwTExHEwUwVEwXE"]),
   (0x105bb, ["aVITHKUQI SMALL LETTER YwZE"]),
   (0x10600, ["aLINEAR A SIGN AB001s2s3s4s5s6s7s8s9r10s1s3s6s7r20s1tFtMs2tFtMs3tMs4s6s7s8p028BpB",
     "029r30s1s4s7s8s9r40s1s4s5s6s7s8s9r50s1s3s4s5s6s7s8s9r60s1s5s6s7s9r70s3s4s6s7s8s9r80s1s2s5s",
     "6s7p100-102pB118r20p120BpB122s3r31AtBp131CpB164r71r80s8r91p301r2r3r4r5r6r7r8r9AsBsCq10r1r2",
     "r3AsBsCr4r5r6r7r8r9q20r1r2r3r4r5r6r7r8r9q30r1r2r3r4r5r6r7r8r9q40r1r2r3r4r5r6r7r8r9q50r1r2r",
     "3r4r5r6r7r8r9q60r1r2r3r4r5r6r7r8r9q70r1p400-VASr1-VASr2-VASr3-VASr4-VASr5-VASr6-VASr7-VASr",
     "8-VASr9-VASq10-VASr1-VASr2-VASr3-VASr4-VASr5-VASr6-VASr7-VASr8-VASp501r2r3r4r5r6r8r9q10r1r",
     "2r3r5r6q20r1r3r4r5r6r7r8r9q30r1r2r4r5r6r7r8r9q40r1r2r5r7r8r9q50r1r2r3r4r5r6r7r9q63r4r5r6r8",
     "r9q70r1r2r3r4r5r6r7r8r9q80r1r2r3r4r5r6r7r8r9q91r2r4r5r6r8p600r1r2r3r4r6r8r9q10r1r2r3r4r5r6",
     "r7r8r9q20r1r2r3r4r6r7r8r9q34r7r8q40r2r3r4r5r6r8r9q51r2r3r4r5r6r7r8r9q60r1r2r3r4"]),
   (0x10740, ["aLINEAR A SIGN A701 Ar2 Br3 Dr4 Er5 Fr6 Hr7 Jr8 Kr9 Ls-2 L2t3 L3t4 L4t6 L6q10 Wr1",
     " Xr2 Yr3 OMEGAr4 ABBr5 BBr7 DDq26 EYYYq32 JE"]),
   (0x10760, ["aLINEAR A SIGN A800r1r2r3r4r5r6r7"]),
   (0x10780, ["aMODIFIER LETTER SMALL CAPITAL AArUPERSCRIPT TRIANGULAR COLONbcHALF TRIANGULAR CO",
     "LONrMALL AEwCAPITAL BwB WITH HOOK"]),
   (0x10787, ["aMODIFIER LETTER SMALL DZ DIGRAPHbg WITH RETROFLEX HOOKbmCURLxEZH DIGRAPHx WITH T",
     "AILbdHOOKbh AND TAILwREVERSED EwCLOSED REVERSED OPEN EwFENG DIGRAPHwRAMS HORNwCAPITAL GwG ",
     "WITH HOOKwCAPITAL G WITH HOOKwH WITH STROKEwCAPITAL HwHENG WITH HOOKwDOTLESS J WITH STROKE",
     " AND HOOKwLS DIGRAPHxZ DIGRAPHx WITH BELTwCAPITAL L WITH BELTwL WITH RETROFLEX HOOK AND BE",
     "LTxEZHba WITH RETROFLEX HOOKwTURNED Ybe WITH BELTwO WITH STROKEwCAPITAL OExLOSED OMEGAwQwT",
     "URNED R WITH LONG LEGbs AND RETROFLEX HOOKwR WITH TAILbdFISHHOOKwCAPITAL RwTC DIGRAPH WITH",
     " CURLxS DIGRAPHbg WITH RETROFLEX HOOKxESH DIGRAPHx WITH RETROFLEX HOOKwV WITH RIGHT HOOK"]),
   (0x107b2, ["aMODIFIER LETTER SMALL CAPITAL YqGLOTTAL STOP WITH STROKEqREVERSED GLOTTAL STOP W",
     "ITH STROKEqBILABIAL CLICKqDENTAL CLICKqLATERAL CLICKqALVEOLAR CLICKqRETROFLEX CLICK WITH R",
     "ETROFLEX HOOKqSMALL S WITH CURL"]),
   (0x10800, ["aCYPRIOT SYLLABLE ArErIrOrUrJA"]),
   (0x10808, ["aCYPRIOT SYLLABLE JO"]),
   (0x1080a, ["aCYPRIOT SYLLABLE KAsEsIsOsUrLAsEsIsOsUrMAsEsIsOsUrNAsEsIsOsUrPAsEsIsOsUrRAsEsIsO",
     "sUrSAsEsIsOsUrTAsEsIsOsUrWAsEsIsO"]),
   (0x10837, ["aCYPRIOT SYLLABLE XAsE"]),
   (0x1083c, ["aCYPRIOT SYLLABLE ZA"]),
   (0x1083f, ["aCYPRIOT SYLLABLE ZOaIMPERIAL ARAMAIC LETTER ALEPHyBETHyGIMELyDALETHyHEyWAWyZAYIN",
     "yHETHyTETHyYODHyKAPHyLAMEDHyMEMyNUNySAMEKHyAYINyPEySADHEyQOPHyRESHySHINyTAW"]),
   (0x10857, ["aIMPERIAL ARAMAIC SECTION SIGNrNUMBER ONEyTWOzHREEzENzWENTYyONE HUNDREDbcTHOUSAND",
     "yTEN THOUSANDaPALMYRENE LETTER ALEPHrBETHrGIMELrDALETHrHErWAWrZAYINrHETHrTETHrYODHrKAPHrLA",
     "MEDHrMEMrFINAL NUNrNUNrSAMEKHrAYINrPErSADHErQOPHrRESHrSHINrTAWmFT-POINTING FLEURONkRIGHT-P",
     "OINTING FLEURONkNUMBER ONErTWOsHREErFOURsIVErTENsWENTYaNABATAEAN LETTER FINAL ALEPHrALEPHr",
     "FINAL BETHrBETHrGIMELrDALETHrFINAL HErHErWAWrZAYINrHETHrTETHrFINAL YODHrYODHrFINAL KAPHrKA",
     "PHrFINAL LAMEDHrLAMEDHrFINAL MEMrMEMrFINAL NUNrNUNrSAMEKHrAYINrPErSADHErQOPHrRESHrFINAL SH",
     "INrSHINrTAW"]),
   (0x108a7, ["aNABATAEAN NUMBER ONErTWOsHREErFOURkCRUCIFORM NUMBER FOURkNUMBER FIVErTENsWENTYrO",
     "NE HUNDRED"]),
   (0x108e0, ["aHATRAN LETTER ALEPHoBETHoGIMELoDALETH-RESHoHEoWAWoZAYNoHETHoTETHoYODHoKAPHoLAMED",
     "HoMEMoNUNoSAMEKHoAYNoPEoSADHEoQOPH"]),
   (0x108f4, ["aHATRAN LETTER SHINoTAW"]),
   (0x108fb, ["aHATRAN NUMBER ONEoFIVEoTENpWENTYoONE HUNDREDaPHOENICIAN LETTER ALFsBETsGAMLsDELT",
     "sHEsWAUsZAIsHETsTETsYODsKAFsLAMDsMEMsNUNsSEMKsAINsPEsSADEsQOFsROSHsSHINsTAUlNUMBER ONEsTEN",
     "tWENTYsONE HUNDREDsTWOtHREE"]),
   (0x1091f, ["aPHOENICIAN WORD SEPARATORaLYDIAN LETTER AoBoGoDoEoVoIoYoKoLoMoNoOoRoSSoToUoFoQoS",
     "oTToANoENoLYoNNoC"]),
   (0x1093f, ["aLYDIAN TRIANGULAR MARK"]),
   (0x10980, ["aMEROITIC HIEROGLYPHIC LETTER AbdEbdIbdObdYAbdWAbdBAbf-2bdPAbdMAbdNAbf-2beEbf-2bd",
     "RAbf-2bdLAbdKHAbdHHAbdSAbf-2beEbdKAbdQAbdTAbf-2beEbf-2beObdDAwSYMBOL VIDJbh-2jCURSIVE LETT",
     "ER AyEyIyOyYAyWAyBAyPAyMAyNAzEyRAyLAyKHAyHHAySAyARCHAIC SAySEyKAyQAyTAzEzOyDA"]),
   (0x109bc, ["aMEROITIC CURSIVE FRACTION ELEVEN TWELFTHSbaONE HALFrLOGOGRAM RMTbaIMNrNUMBER ONE",
     "yTWOzHREEyFOURzIVEySIXzEVENyEIGHTyNINEyTENzWENTYzHIRTYyFORTYzIFTYySIXTYzEVENTY"]),
   (0x109d2, ["aMEROITIC CURSIVE NUMBER ONE HUNDREDyTWO HUNDREDzHREE HUNDREDyFOUR HUNDREDzIVE HU",
     "NDREDySIX HUNDREDzEVEN HUNDREDyEIGHT HUNDREDyNINE HUNDREDyONE THOUSANDyTWO THOUSANDzHREE T",
     "HOUSANDyFOUR THOUSANDzIVE THOUSANDySIX THOUSANDzEVEN THOUSANDyEIGHT THOUSANDyNINE THOUSAND",
     "yTEN THOUSANDzWENTY THOUSANDzHIRTY THOUSANDyFORTY THOUSANDzIFTY THOUSANDySIXTY THOUSANDzEV",
     "ENTY THOUSANDyEIGHTY THOUSANDyNINETY THOUSANDyONE HUNDRED THOUSANDyTWO HUNDRED THOUSANDzHR",
     "EE HUNDRED THOUSANDyFOUR HUNDRED THOUSANDzIVE HUNDRED THOUSANDySIX HUNDRED THOUSANDzEVEN H",
     "UNDRED THOUSANDyEIGHT HUNDRED THOUSANDyNINE HUNDRED THOUSANDrFRACTION ONE TWELFTHbaTWO TWE",
     "LFTHSbbHREE TWELFTHSbaFOUR TWELFTHSbbIVE TWELFTHSbaSIX TWELFTHSbbEVEN TWELFTHSbaEIGHT TWEL",
     "FTHSbaNINE TWELFTHSbaTEN TWELFTHSaKHAROSHTHI LETTER AlVOWEL SIGN IwUwVOCALIC R"]),
   (0x10a05, ["aKHAROSHTHI VOWEL SIGN EwO"]),
   (0x10a0c, ["aKHAROSHTHI VOWEL LENGTH MARKlSIGN DOUBLE RING BELOWqANUSVARAqVISARGAlLETTER KAtH",
     "AsGAtHA"]),
   (0x10a15, ["aKHAROSHTHI LETTER CAtHAsJA"]),
   (0x10a19, ["aKHAROSHTHI LETTER NYAsTTAuHAsDDAuHAsNNAsTAtHAsDAtHAsNAsPAtHAsBAtHAsMAsYAsRAsLAsV",
     "AsSHAtSAtAsZAsHAsKKAsTTTHAvAsVHA"]),
   (0x10a38, ["aKHAROSHTHI SIGN BAR ABOVEqCAUDAqDOT BELOW"]),
   (0x10a3f, ["aKHAROSHTHI VIRAMAlDIGIT ONErTWOsHREErFOURlNUMBER TENtWENTYsONE HUNDREDwTHOUSANDl",
     "FRACTION ONE HALF"]),
   (0x10a50, ["aKHAROSHTHI PUNCTUATION DOTxSMALL CIRCLExCIRCLEyRESCENT BARxMANGALAMxLOTUSxDANDAy",
     "OUBLE DANDAxLINES"]),
   (0x10a60, ["aOLD SOUTH ARABIAN LETTER HEzLAMEDHzHETHzMEMzQOPHzWAWzSHINzRESHzBETHzTAWzSATzKAPH",
     "zNUNzKHETHzSADHEbbMEKHzFEzALEFbaYNzDHADHEzGIMELzDALETHzGHAYNzTETHzZAYNzDHALETHzYODHzTHAWbb",
     "ETHsNUMBER ONEzFIFTYvERIC INDICATOReNORTH ARABIAN LETTER HEHzLAMzHAHzMEEMzQAFzWAWzES-2zREH",
     "zBEHzTEHzES-1zKAFzNOONzKHAHzSADzES-3zFEHzALEFbaINzDADzGEEMzDALzGHAINzTAHzZAINzTHALzYEHzTHE",
     "HzZAHsNUMBER ONEzTENbaWENTY"]),
   (0x10ac0, ["aMANICHAEAN LETTER ALEPHsBETHtHETHsGIMELtHIMELsDALETHsHEsWAWlSIGN UDlLETTER ZAYIN",
     "tHAYINsJAYINtHAYINsHETHsTETHsYODHsKAPHsXAPHsKHAPHsLAMEDHsDHAMEDHsTHAMEDHsMEMsNUNsSAMEKHsAY",
     "INtAYINsPEsFEsSADHEsQOPHsXOPHsQHOPHsRESHsSHINtSHINsTAWlABBREVIATION MARK ABOVEbdBELOW"]),
   (0x10aeb, ["aMANICHAEAN NUMBER ONEsFIVEsTENtWENTYsONE HUNDREDlPUNCTUATION STARxFLEURONxDOUBLE",
     " DOT WITHIN DOTzT WITHIN DOTzTxTWO DOTSxLINE FILLER"]),
   (0x10b00, ["aAVESTAN LETTER AqAqOqAOqNqANqErEpEqEpOqOpIqIpUqUpKEpXEqYEqVEpGEqGEqHEpCEpJEpTEqH",
     "EpDEqHEpTTEpPEpFEpBEqHEpNGErYErVEqEqYEqNEpMEpHMEpYYEqEpVEpREpLEpSEpZEpSHEpZHEpSHYEqSHEpHE"]),
   (0x10b39, ["aAVESTAN ABBREVIATION MARKaTINY TWO DOTS OVER ONE DOT PUNCTUATIONaSMALL TWO DOTS ",
     "OVER ONE DOT PUNCTUATIONaLARGE TWO DOTS OVER ONE DOT PUNCTUATIONgONE DOT OVER TWO DOTS PUN",
     "CTUATIONgTWO RINGS OVER ONE RING PUNCTUATIONgONE RING OVER TWO RINGS PUNCTUATIONaINSCRIPTI",
     "ONAL PARTHIAN LETTER ALEPHbeBETHbeGIMELbeDALETHbeHEbeWAWbeZAYINbeHETHbeTETHbeYODHbeKAPHbeL",
     "AMEDHbeMEMbeNUNbeSAMEKHbeAYINbePEbeSADHEbeQOPHbeRESHbeSHINbeTAW"]),
   (0x10b58, ["aINSCRIPTIONAL PARTHIAN NUMBER ONEbeTWObfHREEbeFOURbeTENbfWENTYbeONE HUNDREDbiTHO",
     "USANDqHLAVI LETTER ALEPHbdBETHbdGIMELbdDALETHbdHEbdWAW-AYIN-RESHbdZAYINbdHETHbdTETHbdYODHb",
     "dKAPHbdLAMEDHbdMEM-QOPHbdNUNbdSAMEKHbdPEbdSADHEbeHINbdTAW"]),
   (0x10b78, ["aINSCRIPTIONAL PAHLAVI NUMBER ONEbdTWObeHREEbdFOURbdTENbeWENTYbdONE HUNDREDbhTHOU",
     "SANDaPSALTER PAHLAVI LETTER ALEPHxBETHxGIMELxDALETHxHExWAW-AYIN-RESHxZAYINxHETHxYODHxKAPHx",
     "LAMEDHxMEM-QOPHxNUNxSAMEKHxPExSADHEyHINxTAW"]),
   (0x10b99, ["aPSALTER PAHLAVI SECTION MARKqTURNED SECTION MARKqFOUR DOTS WITH CROSSbfDOT"]),
   (0x10ba9, ["aPSALTER PAHLAVI NUMBER ONExTWOyHREExFOURxTENyWENTYxONE HUNDRED"]),
   (0x10c00, ["aOLD TURKIC LETTER ORKHON AsYENISEI AbbEsORKHON IsYENISEI IbaEsORKHON ObaEsYENISE",
     "I OEsORKHON ABsYENISEI ABsORKHON AEBsYENISEI AEBsORKHON AGsYENISEI AGsORKHON AEGsYENISEI A",
     "EGsORKHON ADsYENISEI ADsORKHON AEDzEZsYENISEI EZsORKHON AYsYENISEI AYsORKHON AEYsYENISEI A",
     "EYsORKHON AEKsYENISEI AEKsORKHON OEKsYENISEI OEKsORKHON ALsYENISEI ALsORKHON AELzELTbaMzAN",
     "baENsYENISEI AENsORKHON ENTsYENISEI ENTsORKHON ENCsYENISEI ENCsORKHON ENYsYENISEI ENYbaANG",
     "sORKHON ENGsYENISEI AENGsORKHON EPzOPzICzECsYENISEI ECsORKHON AQsYENISEI AQsORKHON IQsYENI",
     "SEI IQsORKHON OQsYENISEI OQsORKHON ARsYENISEI ARsORKHON AERbaSbaESbaSHsYENISEI ASHsORKHON ",
     "ESHsYENISEI ESHsORKHON ATsYENISEI ATsORKHON AETsYENISEI AETsORKHON OTzBASH"]),
   (0x10c80, ["aOLD HUNGARIAN CAPITAL LETTER AbeAbdEBbdAMBbdECbeNCbeCSbeDbdANDbdEbdCLOSE EbdEEbe",
     "FbeGbfYbeHbdIbeIbdEJbeKbdAKbdUNKbdELbfYbeMbeNbfYbdObeObdNIKOLSBURG OEbdRUDIMENTA OEbdOEEbd",
     "EPbeMPbeRbdSHORT ERbdESbfZbeTbeNTbeTYbeCHbdUbeUbdNIKOLSBURG UEbdRUDIMENTA UEbdEVbeZbfSbeNT",
     "-SHAPED SIGNbdUS"]),
   (0x10cc0, ["aOLD HUNGARIAN SMALL LETTER AbcAbbEBbbAMBbbECbcNCbcCSbcDbbANDbbEbbCLOSE EbbEEbcFb",
     "cGbdYbcHbbIbcIbbEJbcKbbAKbbUNKbbELbdYbcMbcNbdYbbObcObbNIKOLSBURG OEbbRUDIMENTA OEbbOEEbbEP",
     "bcMPbcRbbSHORT ERbbESbdZbcTbcNTbcTYbcCHbbUbcUbbNIKOLSBURG UEbbRUDIMENTA UEbbEVbcZbdSbcNT-S",
     "HAPED SIGNbbUS"]),
   (0x10cfa, ["aOLD HUNGARIAN NUMBER ONEvFIVEvTENvFIFTYvONE HUNDREDzTHOUSANDaHANIFI ROHINGYA LET",
     "TER AxBAxPAxTAyTAxJAxCAxHAxKHAxFAxDAyDAxRAyRAxZAxSAyHAxKAxGAxLAxMAxNAxWAxKINNA WAxYAxKINNA",
     " YAxNGAyYAxVAqVOWEL AwIwUwEwOqMARK SAKINvNA KHONNAqSIGN HARBAHAYvTAHALAxNAxSSI"]),
   (0x10d30, ["aHANIFI ROHINGYA DIGIT ZEROwONEwTWOxHREEwFOURxIVEwSIXxEVENwEIGHTwNINE"]),
   (0x10e60, ["aRUMI DIGIT ONElTWOmHREElFOURmIVElSIXmEVENlEIGHTlNINEfNUMBER TENnWENTYnHIRTYmFORT",
     "YnIFTYmSIXTYnEVENTYmEIGHTYmNINETYmONE HUNDREDmTWO HUNDREDnHREE HUNDREDmFOUR HUNDREDnIVE HU",
     "NDREDmSIX HUNDREDnEVEN HUNDREDmEIGHT HUNDREDmNINE HUNDREDfFRACTION ONE HALFsQUARTERsTHIRDo",
     "TWO THIRDS"]),
   (0x10e80, ["aYEZIDI LETTER ELIFoBEoPEpHEoTHEoSEoCIMpHIMqHIMoHHAoXAoDALoZALoRApHAoZAoJAoSINpHI",
     "NpADoDADoTAoZEoEYNoXHEYNoFAoVAq ALTERNATE FORMoQAFoKAFpHAFoGAFoLAMoMIMoNUNoUMoWAWoOWoEWoHA",
     "YoYOToET"]),
   (0x10eab, ["aYEZIDI COMBINING HAMZA MARKrMADDA MARKhHYPHENATION MARK"]),
   (0x10eb0, ["aYEZIDI LETTER LAM WITH DOT ABOVEoYOT WITH CIRCUMFLEX ABOVE"]),
   (0x10f00, ["aOLD SOGDIAN LETTER ALEPHtFINAL ALEPHtBETHtFINAL BETHtGIMELtHEtFINAL HEtWAWtZAYIN",
     "tHETHtYODHtKAPHtLAMEDHtMEMtNUNtFINAL NUNbc WITH VERTICAL TAILtSAMEKHtAYINuLTERNATE AYINtPE",
     "tSADHEtFINAL SADHEbe WITH VERTICAL TAILtRESH-AYIN-DALETHtSHINtTAWtFINAL TAWbc WITH VERTICA",
     "L TAILmNUMBER ONEtTWOuHREEtFOURuIVEtTENuWENTYuHIRTYtONE HUNDREDmFRACTION ONE HALFmLIGATURE",
     " AYIN-DALETH"]),
   (0x10f30, ["aSOGDIAN LETTER ALEPHpBETHpGIMELpHEpWAWpZAYINpHETHpYODHpKAPHpLAMEDHpMEMpNUNpSAMEK",
     "HpAYINpPEpSADHEpRESH-AYINpSHINpTAWpFETHpLESHiINDEPENDENT SHINiCOMBINING DOT BELOWsTWO DOTS",
     " BELOWsDOT ABOVEsTWO DOTS ABOVEsCURVE ABOVEyBELOWsHOOK ABOVExBELOWsLONG HOOK BELOWsRESH BE",
     "LOWsSTROKE BELOWiNUMBER ONEpTENqWENTYpONE HUNDREDiPUNCTUATION TWO VERTICAL BARSbl WITH DOT",
     "SuCIRCLE WITH DOTuTWO CIRCLES WITH DOTSuHALF CIRCLE WITH DOT"]),
   (0x10f70, ["aOLD UYGHUR LETTER ALEPHsBETHsGIMEL-HETHsWAWsZAYINsFINAL HETHsYODHsKAPHsLAMEDHsME",
     "MsNUNsSAMEKHsPEsSADHEsRESHsSHINsTAWsLESHlCOMBINING DOT ABOVEzBELOWvTWO DOTS ABOVEbeBELOWlP",
     "UNCTUATION BARxTWO BARSbbDOTSxFOUR DOTS"]),
   (0x10fb0, ["aCHORASMIAN LETTER ALEPHsSMALL ALEPHsBETHsGIMELsDALETHsHEsWAWsCURLED WAWsZAYINsHE",
     "THsYODHsKAPHsLAMEDHsMEMsNUNsSAMEKHsAYINsPEsRESHsSHINsTAWlNUMBER ONEsTWOtHREEsFOURsTENtWENT",
     "YsONE HUNDRED"]),
   (0x10fe0, ["aELYMAIC LETTER ALEPHpBETHpGIMELpDALETHpHEpWAWpZAYINpHETHpTETHpYODHpKAPHpLAMEDHpM",
     "EMpNUNpSAMEKHpAYINpPEpSADHEpQOPHpRESHpSHINpTAWjIGATURE ZAYIN-YODH"]),
   (0x11000, ["aBRAHMI SIGN CANDRABINDUmANUSVARAmVISARGAmJIHVAMULIYAmUPADHMANIYAhLETTER ApAoIpIo",
     "UpUoVOCALIC RxRwLxLoEoAIoOoAUoKApHAoGApHAoNGAoCApHAoJApHAoNYAoTTAqHAoDDAqHAoNNAoTApHAoDApH",
     "AoNAoPApHAoBApHAoMAoYAoRAoLAoVAoSHApSApAoHAoLLAoOLD TAMIL LLLAyRRAyNNNAhVOWEL SIGN AAsBHAT",
     "TIPROLU AAsItIsUtUsVOCALIC RbbRbaLbbLsEsAIsOsAUiIRAMAhDANDAiOUBLE DANDAhPUNCTUATION DOTvUB",
     "LE DOTtLINEtCRESCENT BARtLOTUS"]),
   (0x11052, ["aBRAHMI NUMBER ONEoTWOpHREEoFOURpIVEoSIXpEVENoEIGHToNINEoTENpWENTYpHIRTYoFORTYpIF",
     "TYoSIXTYpEVENTYoEIGHTYoNINETYoONE HUNDREDsTHOUSANDhDIGIT ZEROnONEnTWOoHREEnFOURoIVEnSIXoEV",
     "ENnEIGHTnNINEhSIGN OLD TAMIL VIRAMAhLETTER OLD TAMIL SHORT EbeOhVOWEL SIGN OLD TAMIL SHORT",
     " EbiOhLETTER OLD TAMIL LLA"]),
   (0x1107f, ["aBRAHMI NUMBER JOINERaKAITHI SIGN CANDRABINDUmANUSVARAmVISARGAhLETTER ApAoIpIoUpU",
     "oEoAIoOoAUoKApHAoGApHAoNGAoCApHAoJApHAoNYAoTTAqHAoDDAqDHAqHAoRHAoNNAoTApHAoDApHAoNAoPApHAo",
     "BApHAoMAoYAoRAoLAoVAoSHApSApAoHAhVOWEL SIGN AAsItIsUtUsEsAIsOsAUhSIGN VIRAMAmNUKTAhABBREVI",
     "ATION SIGNhENUMERATION SIGNhNUMBER SIGNhSECTION MARKhDOUBLE SECTION MARKiANDAiOUBLE DANDAh",
     "VOWEL SIGN VOCALIC R"]),
   (0x110cd, ["aKAITHI NUMBER SIGN ABOVE"]),
   (0x110d0, ["aSORA SOMPENG LETTER SAHuTAHuBAHuCAHuDAHuGAHuMAHuNGAHuLAHuNAHuVAHuPAHuYAHuRAHuHAH",
     "uKAHuJAHuNYAHuAHuEEHuIHuUHuOHuEHuMAE"]),
   (0x110f0, ["aSORA SOMPENG DIGIT ZEROtONEtTWOuHREEtFOURuIVEtSIXuEVENtEIGHTtNINE"]),
   (0x11100, ["aCHAKMA SIGN CANDRABINDUmANUSVARAmVISARGAhLETTER AAoIoUoEoKAApHAAoGAApHAAoNGAAoCA",
     "ApHAAoJAApHAAoNYAAoTTAAqHAAoDDAAqHAAoNNAAoTAApHAAoDAApHAAoNAAoPAApHAAoBAApHAAoMAAoYYAApAAo",
     "RAAoLAAoWAAoSAAoHAAhVOWEL SIGN AsItIsUtUsEsAIsOsAUsOIhO MARKhAU MARKhVIRAMAhMAAYYAA"]),
   (0x11136, ["aCHAKMA DIGIT ZEROnONEnTWOoHREEnFOURoIVEnSIXoEVENnEIGHTnNINEhSECTION MARKhDANDAiO",
     "UBLE DANDAhQUESTION MARKhLETTER LHAAhVOWEL SIGN AAsEIhLETTER VAA"]),
   (0x11150, ["aMAHAJANI LETTER AqIqUqEqOqKArHAqGArHAqCArHAqJArHAqNYAqTTAsHAqDDAsHAqNNAqTArHAqDA",
     "rHAqNAqPArHAqBArHAqMAqRAqLAqVAqSAqHAqRRAjSIGN NUKTAjABBREVIATION SIGNjSECTION MARKjLIGATUR",
     "E SHRI"]),
   (0x11180, ["aSHARADA SIGN CANDRABINDUnANUSVARAnVISARGAiLETTER AqApIqIpUqUpVOCALIC RyRxLyLpEpA",
     "IpOpAUpKAqHApGAqHApNGApCAqHApJAqHApNYApTTArHApDDArHApNNApTAqHApDAqHApNApPAqHApBAqHApMApYAp",
     "RApLAqLApVApSHAqSAqApHAiVOWEL SIGN AAtIuItUuUtVOCALIC RbcRbbLbcLtEtAItOtAUiSIGN VIRAMAnAVA",
     "GRAHAnJIHVAMULIYAnUPADHMANIYAiOMiDANDAjOUBLE DANDAiABBREVIATION SIGNiSEPARATORjANDHI MARKj",
     "IGN NUKTAiVOWEL MODIFIER MARKiEXTRA SHORT VOWEL MARKiSUTRA MARKiVOWEL SIGN PRISHTHAMATRA E",
     "iSIGN INVERTED CANDRABINDUiDIGIT ZEROoONEoTWOpHREEoFOURpIVEoSIXpEVENoEIGHToNINEiEKAMiSIGN ",
     "SIDDHAMiHEADSTROKEiCONTINUATION SIGNiSECTION MARK-1v2"]),
   (0x111e1, ["aSINHALA ARCHAIC DIGIT ONEwTWOxHREEwFOURxIVEwSIXxEVENwEIGHTwNINEqNUMBER TENyWENTY",
     "yHIRTYxFORTYyIFTYxSIXTYyEVENTYxEIGHTYxNINETYxONE HUNDREDbbTHOUSAND"]),
   (0x11200, ["aKHOJKI LETTER ApAoIoUoEoAIoOoAUoKApHAoGApGApHAoNGAoCApHAoJApJA"]),
   (0x11213, ["aKHOJKI LETTER NYAoTTAqHAoDDAqHAoNNAoTApHAoDApDDApHAoNAoPApHAoBApBApHAoMAoYAoRAoL",
     "AoVAoSAoHAoLLAhVOWEL SIGN AAsItIsUsEsAIsOsAUhSIGN ANUSVARAmVIRAMAmNUKTAmSHADDAhDANDAiOUBLE",
     " DANDAhWORD SEPARATORhSECTION MARKhDOUBLE SECTION MARKhABBREVIATION SIGNhSIGN SUKUN"]),
   (0x11280, ["aMULTANI LETTER ApIpUpEpKAqHApGA"]),
   (0x11288, ["aMULTANI LETTER GHA"]),
   (0x1128a, ["aMULTANI LETTER CAqHApJAqJA"]),
   (0x1128f, ["aMULTANI LETTER NYApTTArHApDDArDArHApNNApTAqHApDAqHApNApPAqHApBA"]),
   (0x1129f, ["aMULTANI LETTER BHApMApYApRApLApVApSApHApRRAqHAiSECTION MARK"]),
   (0x112b0, ["aKHUDAWADI LETTER AsArIsIrUsUrErAIrOrAUrKAsHArGAsGAsHArNGArCAsHArJAsJAsHArNYArTTA",
     "tHArDDAtDArRRArDDHArNNArTAsHArDAsHArNArPAsHArBAsBAsHArMArYArRArLArVArSHAsArHAkSIGN ANUSVAR",
     "AkVOWEL SIGN AAvIwIvUwUvEvAIvOvAUkSIGN NUKTApVIRAMA"]),
   (0x112f0, ["aKHUDAWADI DIGIT ZEROqONEqTWOrHREEqFOURrIVEqSIXrEVENqEIGHTqNINE"]),
   (0x11300, ["aGRANTHA SIGN COMBINING ANUSVARA ABOVEoANDRABINDUnANUSVARAnVISARGA"]),
   (0x11305, ["aGRANTHA LETTER AqApIqIpUqUpVOCALIC RxL"]),
   (0x1130f, ["aGRANTHA LETTER EEpAI"]),
   (0x11313, ["aGRANTHA LETTER OOpAUpKAqHApGAqHApNGApCAqHApJAqHApNYApTTArHApDDArHApNNApTAqHApDAq",
     "HApNA"]),
   (0x1132a, ["aGRANTHA LETTER PAqHApBAqHApMApYApRA"]),
   (0x11332, ["aGRANTHA LETTER LAqLA"]),
   (0x11335, ["aGRANTHA LETTER VApSHAqSAqApHA"]),
   (0x1133b, ["aCOMBINING BINDU BELOWaGRANTHA SIGN NUKTAnAVAGRAHAiVOWEL SIGN AAtIuItUuUtVOCALIC ",
     "RbcR"]),
   (0x11347, ["aGRANTHA VOWEL SIGN EEtAI"]),
   (0x1134b, ["aGRANTHA VOWEL SIGN OOtAUiSIGN VIRAMA"]),
   (0x11350, ["aGRANTHA OM"]),
   (0x11357, ["aGRANTHA AU LENGTH MARK"]),
   (0x1135d, ["aGRANTHA SIGN PLUTAiLETTER VEDIC ANUSVARAvDOUBLE ANUSVARAqOCALIC RRxLLiVOWEL SIGN",
     " VOCALIC LbcL"]),
   (0x11366, ["aCOMBINING GRANTHA DIGIT ZEROyONEyTWOzHREEyFOURzIVEySIX"]),
   (0x11370, ["aCOMBINING GRANTHA LETTER AzKAzNAzVIzPA"]),
   (0x11400, ["aNEWA LETTER AnAmInImUnUmVOCALIC RvRuLvLmEmAImOmAUmKAnHAmGAnHAmNGAoHAmCAnHAmJAnHA",
     "mNYAoHAmTTAoHAmDDAoHAmNNAmTAnHAmDAnHAmNAnHAmPAnHAmBAnHAmMAnHAmYAmRAnHAmLAnHAmWAmSHAnSAnAmH",
     "AfVOWEL SIGN AAqIrIqUrUqVOCALIC RzRyLzLqEqAIqOqAUfSIGN VIRAMAkCANDRABINDUkANUSVARAkVISARGA",
     "kNUKTAkAVAGRAHAkFINAL ANUSVARAfOMfSIDDHIfDANDAgOUBLE DANDAfCOMMAfGAP FILLERfABBREVIATION S",
     "IGNfDIGIT ZEROlONElTWOmHREElFOURmIVElSIXmEVENlEIGHTlNINEgOUBLE COMMAfPLACEHOLDER MARK"]),
   (0x1145d, ["aNEWA INSERTION SIGNfSANDHI MARKfLETTER VEDIC ANUSVARAfSIGN JIHVAMULIYAkUPADHMANI",
     "YA"]),
   (0x11480, ["aTIRHUTA ANJIiLETTER AqApIqIpUqUpVOCALIC RyRxLyLpEpAIpOpAUpKAqHApGAqHApNGApCAqHAp",
     "JAqHApNYApTTArHApDDArHApNNApTAqHApDAqHApNApPAqHApBAqHApMApYApRApLApVApSHAqSAqApHAiVOWEL SI",
     "GN AAtIuItUuUtVOCALIC RbcRbbLbcLtEtSHORT EtAItOtSHORT OtAUiSIGN CANDRABINDUnANUSVARAnVISAR",
     "GApRAMAnNUKTAnAVAGRAHAiGVANGiABBREVIATION SIGNiOM"]),
   (0x114d0, ["aTIRHUTA DIGIT ZEROoONEoTWOpHREEoFOURpIVEoSIXpEVENoEIGHToNINE"]),
   (0x11580, ["aSIDDHAM LETTER AqApIqIpUqUpVOCALIC RyRxLyLpEpAIpOpAUpKAqHApGAqHApNGApCAqHApJAqHA",
     "pNYApTTArHApDDArHApNNApTAqHApDAqHApNApPAqHApBAqHApMApYApRApLApVApSHAqSAqApHAiVOWEL SIGN AA",
     "tIuItUuUtVOCALIC RbcR"]),
   (0x115b8, ["aSIDDHAM VOWEL SIGN EtAItOtAUiSIGN CANDRABINDUnANUSVARAnVISARGApRAMAnNUKTAnSIDDHA",
     "MiDANDAjOUBLE DANDAiSEPARATOR DOTsBARiREPETITION MARK-1y2y3iEND OF TEXT MARKiSECTION MARK ",
     "WITH TRIDENT AND U-SHAPED ORNAMENTSbmDOTTED CRESCENTSbaRAYS AND DOTTED CRESCENTSbqDOUBLE C",
     "RESCENTSbqTRIPLE CRESCENTSvDOUBLE RINGbg WITH RAYSvWITH DOUBLE CRESCENTSbaTRIPLE CRESCENTS",
     "baQUADRUPLE CRESCENTSbaSEPTUPLE CRESCENTSbaCIRCLES AND RAYSbmTWO ENCLOSURESbmFOUR ENCLOSUR",
     "ESiLETTER THREE-CIRCLE ALTERNATE IqWO-CIRCLE ALTERNATE IblIpALTERNATE UiVOWEL SIGN ALTERNA",
     "TE UbeU"]),
   (0x11600, ["aMODI LETTER AnAmInImUnUmVOCALIC RvRuLvLmEmAImOmAUmKAnHAmGAnHAmNGAmCAnHAmJAnHAmNY",
     "AmTTAoHAmDDAoHAmNNAmTAnHAmDAnHAmNAmPAnHAmBAnHAmMAmYAmRAmLAmVAmSHAnSAnAmHAmLLAfVOWEL SIGN A",
     "AqIrIqUrUqVOCALIC RzRyLzLqEqAIqOqAUfSIGN ANUSVARAkVISARGAmRAMAkARDHACANDRAfDANDAgOUBLE DAN",
     "DAfABBREVIATION SIGNfSIGN HUVA"]),
   (0x11650, ["aMODI DIGIT ZEROlONElTWOmHREElFOURmIVElSIXmEVENlEIGHTlNINE"]),
   (0x11660, ["aMONGOLIAN BIRGA WITH ORNAMENTkROTATED BIRGAkDOUBLE BIRGA WITH ORNAMENTkTRIPLE BI",
     "RGA WITH ORNAMENTkBIRGA WITH DOUBLE ORNAMENTkROTATED BIRGA WITH ORNAMENTbdDOUBLE ORNAMENTk",
     "INVERTED BIRGAy WITH DOUBLE ORNAMENTkSWIRL BIRGAv WITH ORNAMENTbbDOUBLE ORNAMENTkTURNED SW",
     "IRL BIRGA WITH DOUBLE ORNAMENT"]),
   (0x11680, ["aTAKRI LETTER AoAnIoInUoUnEnAInOnAUnKAoHAnGAoHAnNGAnCAoHAnJAoHAnNYAnTTApHAnDDApHA",
     "nNNAnTAoHAnDAoHAnNAnPAoHAnBAoHAnMAnYAnRAnLAnVAnSHAoAnHAnRRAgSIGN ANUSVARAlVISARGAgVOWEL SI",
     "GN AArIsIrUsUrErAIrOrAUgSIGN VIRAMAlNUKTAgLETTER ARCHAIC KHAgABBREVIATION SIGN"]),
   (0x116c0, ["aTAKRI DIGIT ZEROmONEmTWOnHREEmFOURnIVEmSIXnEVENmEIGHTmNINE"]),
   (0x11700, ["aAHOM LETTER KAnHAmNGAnAmTAmALTERNATE TAmPAnHAmBAmMAmJAmCHAmTHAmRAmLAmSAmNYAmHAmA",
     "mDAnHAmGAmALTERNATE GAmGHAmBHAmJHAmALTERNATE BA"]),
   (0x1171d, ["aAHOM CONSONANT SIGN MEDIAL LAbbRAbbLIGATING RAfVOWEL SIGN ArAqIrIqUrUqEqAWqOqAIr",
     "MfSIGN KILLER"]),
   (0x11730, ["aAHOM DIGIT ZEROlONElTWOmHREElFOURmIVElSIXmEVENlEIGHTlNINEfNUMBER TENnWENTYfSIGN ",
     "SMALL SECTIONlECTIONkRULAIgYMBOL VIfLETTER CAmTTAoHAmDDAoHAmNNAmLLA"]),
   (0x11800, ["aDOGRA LETTER AoAnIoInUoUnEnAInOnAUnKAoHAnGAoHAnNGAnCAoHAnJAoHAnNYAnTTApHAnDDApHA",
     "nNNAnTAoHAnDAoHAnNAnPAoHAnBAoHAnMAnYAnRAnLAnVAnSHAoSAoAnHAnRRAgVOWEL SIGN AArIsIrUsUrVOCAL",
     "IC RbaRrErAIrOrAUgSIGN ANUSVARAlVISARGAnRAMAlNUKTAgABBREVIATION SIGN"]),
   (0x118a0, ["aWARANG CITI CAPITAL LETTER NGAAbbAbbWIbbYUbcAbcObbIIbbUUbbEbbObbANGbbGAbbKObbENY",
     "bbYUJbbUCbbENNbbODDbbTTEbbNUNGbbDAbbATbcMbbBUbbPUbbHIYObcOLObdRRbcARbbSSUUbcIIbbVIYOmSMALL",
     " LETTER NGAAzAzWIzYUbaAbaOzIIzUUzEzOzANGzGAzKOzENYzYUJzUCzENNzODDzTTEzNUNGzDAzATbaMzBUzPUz",
     "HIYObaOLObbRRbaARzSSUUbaIIzVIYOmDIGIT ZEROsONEsTWOtHREEsFOURtIVEsSIXtEVENsEIGHTsNINEmNUMBE",
     "R TENuWENTYuHIRTYtFORTYuIFTYtSIXTYuEVENTYtEIGHTYtNINETY"]),
   (0x118ff, ["aWARANG CITI OMaDIVES AKURU LETTER AuAtIuItUuUtE"]),
   (0x11909, ["aDIVES AKURU LETTER O"]),
   (0x1190c, ["aDIVES AKURU LETTER KAuHAtGAuHAtNGAtCAuHAtJA"]),
   (0x11915, ["aDIVES AKURU LETTER NYAtTTA"]),
   (0x11918, ["aDIVES AKURU LETTER DDAvHAtNNAtTAuHAtDAuHAtNAtPAuHAtBAuHAtMAtYAuYAtRAtLAtVAtSHAuS",
     "AuAtHAtLLAtZAmVOWEL SIGN AAxIyIxUyUxE"]),
   (0x11937, ["aDIVES AKURU VOWEL SIGN AIxO"]),
   (0x1193b, ["aDIVES AKURU SIGN ANUSVARArCANDRABINDUrHALANTAmVIRAMAmPREFIXED NASAL SIGNmMEDIAL ",
     "YAmINITIAL RAmMEDIAL RAmSIGN NUKTAmDOUBLE DANDAmGAP FILLERmEND OF TEXT MARK"]),
   (0x11950, ["aDIVES AKURU DIGIT ZEROsONEsTWOtHREEsFOURtIVEsSIXtEVENsEIGHTsNINE"]),
   (0x119a0, ["aNANDINAGARI LETTER AuAtIuItUuUtVOCALIC RbcR"]),
   (0x119aa, ["aNANDINAGARI LETTER EtAItOtAUtKAuHAtGAuHAtNGAtCAuHAtJAuHAtNYAtTTAvHAtDDAvHAtNNAtT",
     "AuHAtDAuHAtNAtPAuHAtBAuHAtMAtYAtRAtLAtVAtSHAuSAuAtHAtLLAtRRAmVOWEL SIGN AAxIyIxUyUxVOCALIC",
     " RbgR"]),
   (0x119da, ["aNANDINAGARI VOWEL SIGN ExAIxOxAUmSIGN ANUSVARArVISARGAtRAMArAVAGRAHArSIDDHAMmHEA",
     "DSTROKEmVOWEL SIGN PRISHTHAMATRA E"]),
   (0x11a00, ["aZANABAZAR SQUARE LETTER ArVOWEL SIGN IbcUEbcUbcEbcOEbcObcAIbdUbcREVERSED IxLENGT",
     "H MARKrLETTER KAzHAyGAzHAyNGAyCAzHAyJAyNYAyTTAbaHAyDDAbaHAyNNAyTAzHAyDAzHAyNAyPAzHAyBAzHAy",
     "MAyTSAbaHAyDZAbaHAyZHAzAy-AyYAyRAyLAyVAySHAzSAzAyHAyKSSArFINAL CONSONANT MARKrSIGN VIRAMAw",
     "CANDRABINDUbh WITH ORNAMENTbc WITH ORNAMENTwANUSVARAwVISARGArCLUSTER-INITIAL LETTER RAzFIN",
     "AL LETTER YAbmRAbmLAbmVArINITIAL HEAD MARKrCLOSING HEAD MARKrMARK TSHEGwSHADwDOUBLE SHADwL",
     "ONG TSHEGrINITIAL DOUBLE-LINED HEAD MARKrCLOSING DOUBLE-LINED HEAD MARKrSUBJOINER"]),
   (0x11a50, ["aSOYOMBO LETTER AiVOWEL SIGN ItUEtUtEtOuEtAIuUtVOCALIC RbbLoLENGTH MARKiLETTER KA",
     "qHApGAqHApNGApCAqHApJAqHApNYApTTArHApDDArHApNNApTAqHApDAqHApNApPAqHApBAqHApMApTSArHApDZApZ",
     "HAqAp-ApYApRApLApVApSHAqSAqApHApKSSAiSIGN JIHVAMULIYAnUPADHMANIYAiCLUSTER-INITIAL LETTER R",
     "AbfLAbfSHAbgAiFINAL CONSONANT SIGN GbdKbdNGbdDbdNbdBbdMbdRbdLbdSHbdSbd-AiSIGN ANUSVARAnVIS",
     "ARGAiGEMINATION MARKiSUBJOINERiMARK TSHEGnSHADnDOUBLE SHADnPLUTAiHEAD MARK WITH MOON AND S",
     "UN AND TRIPLE FLAMEboFLAMEbiNiTERMINAL MARK-1w2"]),
   (0x11ab0, ["aCANADIAN SYLLABICS NATTILIK HIbeIbdObeObdAbeAbcSHRIbgIbfObgObfAbgAtSPEvIvOvAaPAU",
     " CIN HAU LETTER PAtKAtLAtMAtDAtZAtVAtNGAtHAtGAtKHAtSAtBAtCAtTAuHAtNAtPHAtRAtFAtCHAtAtEtItO",
     "tUuAtIAtFINAL PzKzTzMzNzLzWzNGzYmRISING TONE LONGwEmSANDHI GLOTTAL STOPmRISING TONE LONG F",
     "INALyFINALmSANDHI GLOTTAL STOP FINALtTONE LONGwEx LONG FINALyFINALmMID-LEVEL TONEmGLOTTAL ",
     "STOP VARIANTmMID-LEVEL TONE LONG FINALbbFINALmLOW-FALLING TONE LONGbbEmGLOTTAL STOPmLOW-FA",
     "LLING TONE LONG FINALbdFINALmGLOTTAL STOP FINAL"]),
   (0x11c00, ["aBHAIKSUKI LETTER AsArIsIrUsUrVOCALIC RbaRzL"]),
   (0x11c0a, ["aBHAIKSUKI LETTER ErAIrOrAUrKAsHArGAsHArNGArCAsHArJAsHArNYArTTAtHArDDAtHArNNArTAs",
     "HArDAsHArNArPAsHArBAsHArMArYArRArLArVArSHAsSAsArHAkVOWEL SIGN AAvIwIvUwUvVOCALIC RbeRbdL"]),
   (0x11c38, ["aBHAIKSUKI VOWEL SIGN EvAIvOvAUkSIGN CANDRABINDUpANUSVARApVISARGArRAMApAVAGRAHAkD",
     "ANDAlOUBLE DANDAkWORD SEPARATORkGAP FILLER-1v2"]),
   (0x11c50, ["aBHAIKSUKI DIGIT ZEROqONEqTWOrHREEqFOURrIVEqSIXrEVENqEIGHTqNINEkNUMBER ONErTWOsHR",
     "EErFOURsIVErSIXsEVENrEIGHTrNINErTENsWENTYsHIRTYrFORTYsIFTYrSIXTYsEVENTYrEIGHTYrNINETYkHUND",
     "REDS UNIT MARK"]),
   (0x11c70, ["aMARCHEN HEAD MARKiMARK SHADiLETTER KAqHApGApNGApCAqHApJApNYApTAqHApDApNApPAqHApB",
     "ApMApTSArHApDZApWApZHAqAp-ApYApRApLApSHAqApHApA"]),
   (0x11c92, ["aMARCHEN SUBJOINED LETTER KAbaHAzGAzNGAzCAbaHAzJAzNYAzTAbaHAzDAzNAzPAbaHAzBAzMAzT",
     "SAbbHAzDZAzWAzZHAbaA"]),
   (0x11ca9, ["aMARCHEN SUBJOINED LETTER YAzRAzLAzSHAbaAzHAzAiVOWEL SIGN AAtItUtEtOiSIGN ANUSVAR",
     "AnCANDRABINDU"]),
   (0x11d00, ["aMASARAM GONDI LETTER AwAvIwIvUwUvE"]),
   (0x11d08, ["aMASARAM GONDI LETTER AIvO"]),
   (0x11d0b, ["aMASARAM GONDI LETTER AUvKAwHAvGAwHAvNGAvCAwHAvJAwHAvNYAvTTAxHAvDDAxHAvNNAvTAwHAv",
     "DAwHAvNAvPAwHAvBAwHAvMAvYAvRAvLAvVAvSHAwSAwAvHAvLLAvKSSAvJNYAvTRAoVOWEL SIGN AAzIbaIzUbaUz",
     "VOCALIC R"]),
   (0x11d3a, ["aMASARAM GONDI VOWEL SIGN E"]),
   (0x11d3c, ["aMASARAM GONDI VOWEL SIGN AIzO"]),
   (0x11d3f, ["aMASARAM GONDI VOWEL SIGN AUoSIGN ANUSVARAtVISARGAtNUKTAtCANDRAtHALANTAoVIRAMAoRE",
     "PHApA-KARA"]),
   (0x11d50, ["aMASARAM GONDI DIGIT ZEROuONEuTWOvHREEuFOURvIVEuSIXvEVENuEIGHTuNINE"]),
   (0x11d60, ["aGUNJALA GONDI LETTER AwAvIwIvUwU"]),
   (0x11d67, ["aGUNJALA GONDI LETTER EEvAI"]),
   (0x11d6a, ["aGUNJALA GONDI LETTER OOvAUvYAvVAvBAwHAvMAvKAwHAvTAwHAvLAvGAwHAvDAwHAvNAvCAwHAvTT",
     "AxHAvLLAvJAwHAvDDAxHAvNGAvPAwHAvHAvRAvSAoVOWEL SIGN AAzIbaIzUbaU"]),
   (0x11d90, ["aGUNJALA GONDI VOWEL SIGN EEzAI"]),
   (0x11d93, ["aGUNJALA GONDI VOWEL SIGN OOzAUoSIGN ANUSVARAtVISARGAoVIRAMAoOM"]),
   (0x11da0, ["aGUNJALA GONDI DIGIT ZEROuONEuTWOvHREEuFOURvIVEuSIXvEVENuEIGHTuNINE"]),
   (0x11ee0, ["aMAKASAR LETTER KApGApNGApPApBApMApTApDApNApCApJApNYApYApRApLApVApSApAiANGKAiVOWE",
     "L SIGN ItUtEtOiPASSIMBANGiEND OF SECTION"]),
   (0x11fb0, ["aLISU LETTER YHA"]),
   (0x11fc0, ["aTAMIL FRACTION ONE THREE-HUNDRED-AND-TWENTIETHtONE-HUNDRED-AND-SIXTIETHtEIGHTIET",
     "HtSIXTY-FOURTHtFORTIETHtTHIRTY-SECONDpTHREE EIGHTIETHSvSIXTY-FOURTHSpONE TWENTIETHtSIXTEEN",
     "TH-1bd2tTENTHtEIGHTHpTHREE TWENTIETHSvSIXTEENTHSpONE FIFTHtQUARTERtHALF-1y2pTHREE QUARTERS",
     "pDOWNSCALING FACTOR KIIZHgSIGN NELlCEVITUlAAZHAAKKUlUZHAKKUlMUUVUZHAKKUlKURUNIlPATHAKKUlMU",
     "KKURUNIlKAACUlPANAMmONlVARAAKANlPAARAMlKUZHIlVELIgWET CULTIVATION SIGNgDRY CULTIVATION SIG",
     "NgLAND SIGNgSALT PAN SIGNgTRADITIONAL CREDIT SIGNsNUMBER SIGNgCURRENT SIGNgAND ODD SIGNgSP",
     "ENT SIGNgTOTAL SIGNgIN POSSESSION SIGNgSTARTING FROM SIGNhIGN MUTHALIYAlVAKAIYARAA"]),
   (0x11fff, ["aTAMIL PUNCTUATION END OF TEXTaCUNEIFORM SIGN Aq TIMES AxBADxGAN2 TENUxHAxIGIxLAG",
     "AR GUNUxMUSHxSAGq2qBr TIMES ASH2yDUN3 GUNUyGALbaN2 TENUyHAyIGI GUNUzMINyLAGABySHESHyU PLUS",
     " U PLUS UsGUNUr2s TIMES BALAGzGAN2 TENUzME PLUS ENzSHA3zTAK4qDqKr TIMES ERIN2ySHITA PLUS G",
     "ISHqLr TIMES ALyDIM2yGISHyHAyKAD3zIySHEyUSHrANrEPHqMARt TIMES SHEqNr OVER ANsTHREE TIMESsP",
     "LUS NAGA OPPOSING AN PLUS NAGAbcSQUAREDrSHEqPINqRADt TIMES KURrKABqSAL2rHs ZIDA TENUtKABA ",
     "TENUtOVER ASH TUG2 OVER TUG2 TUG2 OVER TUG2 PAPbcOVER ASHbk CROSSING ASH OVER ASH OVER ASH",
     "s2sGABpBArDrG3rHAR2rLs OVER BALsAGrRsA2qIr TIMES AyGARyIGI GUNUqUr OVER BU ABbaUNsCROSSING",
     " BUrLUGu OVER BULUGrRs2pDArGs KISIM5 TIMES A PLUS MASHbhMARbgBALAGbhIbgGAbi PLUS MASHbhIbi",
     "R2bhUDbgHAbgIRbi PLUS LUbgKAKbgLAbhUbi PLUS MASH2biMbgNEbgPAP PLUS PAPbgSIbgTAK4bgU2 PLUS ",
     "GIR2bhSHrMrRsA3t4qIrBrMs TIMES SHEs2rNs KASKAL U GUNU DISHrSHqUr OVER DUsGUNUsSHESHIGrBs T",
     "IMES ESH2s2rGsUDrHrNs3t GUNUy GUNUs4rR2pEq TIMES PAPrOVER E NUN OVER NUNq2r TIMES A PLUS H",
     "A PLUS DAyGARyMIySALzHEyUqDINqGIRqLqNr TIMES GAN2bc TENUyMEsCROSSING ENsOPPOSING ENsSQUARE",
     "DqRENrIN2qSH2qZENt TIMES Abb PLUS LALbk TIMES LALbbNbaBADbaDUN3 GUNUbj GUNUbaHAbc GUNUbaIG",
     "I GUNUbaKASKALbg SQUAREDbbU3baLAbcL TIMES LALbbIbbUbaU2bbDpGAr GUNUr2s TIMES A PLUS DA PLU",
     "S HAbgHAbgIGIbaB2 TENU PLUS TABbaNbaSHbc2 PLUS GALzBADbbR PLUS RAbaURbc PLUS RAzDAbaIbbM T",
     "IMES SHEbaUBzELbb PLUS LAbaNbb TIMES GAN2 TENUzGAN2 TENUbbRbaIbb4bc PLUS AbbR2 PLUS SUzHA ",
     "PLUS LU PLUS ESH2bbLbc PLUS LAbaI PLUS LIbaUB2zIGI GUNUbaSH PLUS HU PLUS ASHzKAKbbSKALbaID",
     "bc PLUS LALbaU3 PLUS ANzLAzME PLUS ENbaIzNUNbc OVER NUNzPAzSALbbRbaHEbc PLUS TURbbIDbaUMzT",
     "AK4zUbaDbb PLUS DUtOVER GA2rBAt CROSSING GABArDs OVER GAD GAR OVER GARrLs GAD OVER GAD GAR",
     " OVER GARsAMrMrNs2t TENUuOVER GAN2uCROSSING GAN2rRs3rSHANqESHTINw TIMES KURqIr TIMES EyUsC",
     "ROSSING GIr4s OVER GI4tCROSSING GI4rDIMrR2t GUNUs3t TIMES A PLUS IGIbaGAN2 TENUbaIGIbaLU P",
     "LUS IGIbaPArSALsHt CROSSING GISHuTIMES BADbaTAK4vENUqUr CROSSING GUr2s TIMES KAKbc TIMES I",
     "GI GUNUzNUNzSAL PLUS TUG2tGUNUrDs TIMES A PLUS KURzKURtOVER GUD LUGALrLrMs TIMES SHErRs7sU",
     "NtSHpHAr TENUsGUNUrLqIr TIMES ASHbb2yBADyDISHyGADyKINyNUNySHEyUqUrB2t TIMES ANbaHALbaKASKA",
     "LbaLISHbaUDrL2pIq AqBqDIMt OVER IDIM BURbeSQUAREDqGrIs DIBtRItOVER IGI SHIR OVER SHIR UD O",
     "VER UDtGUNUqLr TIMES GAN2 TENUr2qMr TIMES TAK4sCROSSING IMsOPPOSING IMsSQUAREDrINqNqRqSHpK",
     "Ar TIMES AzDba PLUS KU3zSH2yBADbaLAGbaRzIyERIN2zSH2yGAbaLbaN2 TENUbaRbb PLUS SHA3 PLUS AzI",
     "baR2baSH PLUS SARbdCROSSING GISHzUbaR7yIGIzMyKAKzIbaDyLIzUyMEba PLUS DUbgGIbgTEzIba PLUS N",
     "UNUZyNEzUNyPIyRUySAbaRzHAbaEbaIDbaUzIGzUHURyTARyUz2zDzMUM TIMES PAzSHyZIr2s CROSSING KA2rB",
     "rD2s3s4s5t OVER KAD5rKs TIMES IGI GUNUrLs TIMES BADtCROSSING KALrM2s4rSKALv LAGAB TIMES U ",
     "OVER LAGAB TIMES UwOVER KASKAL LAGAB TIMES U OVER LAGAB TIMES UqESH2qIr TIMES BADyUzDrDrNr",
     "SALsHsIM5v OVER KISIM5qUr OVER HI TIMES ASH2 KU OVER HI TIMES ASH2r3r4s VARIANT FORMr7rLs ",
     "GUNUrNrRs OPPOSING KURrSHU2qWU318pLArGABu TIMES Abc PLUS DA PLUS HAbiGARbiLALbcLbcNbcSH ZI",
     "DA TENUbbBADbcIbbDARbbENbbGAbdRbcUDbe PLUS GUDbbHAbdLbcI TIMES NUNbbIGI GUNUbcMbd PLUS HAb",
     "jLUbbKIbdNbcU3bdLbe PLUS HI PLUS AbbLAGABbcISHbcUbdLbbMEbd PLUS ENbcUSHbbNEbbSHE PLUS SUMb",
     "dITA PLUS GISH PLUS ERIN2brTENUbdU2bf PLUS SHU2bcUMbbTAGbdK4bcE PLUS A PLUS SU PLUS NAbbUb",
     "c PLUS AbiU PLUS Ubc2 PLUS ASHbcDbcSHvSQUAREDtRu TIMES SHEbe PLUS SUMvGUNUz OVER LAGAR GUN",
     "U SHErHSHUrLs TIMES LALrMs TIMES KURbc PLUS RUqIrLrMMU2rSHqUr TIMES BADr2s TIMES ALzBADzES",
     "H2bd TENUzGAN2 TENUzHI TIMES BADzIMzKAD2bc3bd PLUS ASHbaIzLA PLUS ASHbbGABzME PLUS ENzNEba",
     "UzSI PLUS ASHbbK2 PLUS BUzTUG2uENUtCROSSING LU2tOPPOSING LU2tSQUAREDuHESHIGr3rGALu OVER LU",
     "GALwPPOSING LUGALvSHESHIGrHrLrMs OVER LUMbb GAR OVER GARpMAr TIMES TAK4sGUNUr2rHrRrSHt2qEr",
     "SqIrNqUr OVER MUrGs GUNUrNSUBrRGU2rSHt TIMES AbaKURbaZAuOVER MUSHbd TIMES A PLUS NAuCROSSI",
     "NG MUSHt3u TIMES Abc PLUS DIbbDIvGUNUpNAr2rGAt INVERTEDuTIMES SHU TENUuOPPOSING NAGAtRrM N",
     "UTILLUrMs2qEr TIMES AyUDsSHESHIGqIr TIMES Er2rMs TIMES GAN2 TENUbbR PLUS GAN2 TENUrNDA2v T",
     "IMES ANbdSHbf PLUS ASHbcGUDbcME PLUS GAN2 TENUbcNEbdUNbcSHEbf PLUS A ANbmSHbo PLUS ASHbcU2",
     " PLUS ASHbdSHrSAGqUr11rNs LAGAR TIMES GARbfMASHbfSALbi OVER NUN LAGAR TIMES SALbfUSHtTENUt",
     "OVER NUNtCROSSING NUNbf LAGAR OVER LAGARsUZu AB2 TIMES ASHGABbfBIbfDUGbfGUDbfIGI GUNUbfKAD",
     "3bfLAbfNEbfSILA3bfU2vKISIM5 TIMES BIbk UpPArDrNrPqESH2qIr TIMES AzByBIzUyEyIzByUz2sCROSSIN",
     "G PIrRIGu TIMES KALbbUDbbZAvOPPOSING PIRIGpRArBqIqUpSArG NUTILLUrGs TIMES AzDUbbBzHAzKAKba",
     "URzLUMzMIzNUNzSALbaHIDzTABzU2baBbaMbaRbaSHtOVER SAGtGUNUrLs LAGAB TIMES ASH2rNGA2rRqHAs3t ",
     "TIMES AbaBADbaGISHbaNEbaSHU2baTURbaUbb PLUS As6sB6sR2rEs HUtOVER SHE GAD OVER GAD GAR OVER",
     " GARbcTAB OVER TAB GAR OVER GARsG9sNsSHu2uLAMrIDt TIMES AbaIMsMt TIMES AbaBALbbULUGbaDINba",
     "GARbaIGIbd GUNUbaKUSHU2baLULbaMUGbaSALsNIGsRt TENUuOVER SHIR BUR OVER BURsTArUs OVER INVER",
     "TED SHUs2sBURqIr GUNUrGs4t OVER SIG4 SHU2rK2rLA3qUr OVER SUrDs2rHURrMsASHrRs9pTAr ASTERISK",
     "sTIMES HIyMIsGUNUrBs OVER TAB NI OVER NI DISH OVER DISHtSQUAREDrGs TIMES BIzGUDzSHEbbUzTUG",
     "2zUDrK4rRqEr GUNUqIr TENUrLrRs TIMES TAK4tOVER TIRbb GAD OVER GAD GAR OVER GARqUrG2rKrMrRs",
     " OVER TUR ZA OVER ZApUq GUDrU UrOVER U PA OVER PA GAR OVER GARySUR OVER SURyU REVERSED OVE",
     "R U REVERSEDq2qBqDr KUSHU2sTIMES BADyMIyU PLUS U PLUS Ubn GUNUsGUNUsSHESHIGz TIMES BADrUGq",
     "Mr TIMES LAGAByME PLUS DAySHA3yUrBINrUMt TIMES KASKALbaPAqNr GUNUqRr CROSSING URsSHESHIGr2",
     "s TIMES A PLUS HAbgNAbaLzHAzNUNzU2bb PLUS ASHbhBIr4rIs3rUs TIMES AbaSHGABzBARzDUNzGAbbLbbN",
     "2 TENUbbRbaUzHAzIGIbaMbaSHzKIzLUMzMINzPAzSHEbaIG4zTUzU PLUS GUDbaDbaRUDAsDAu TIMES UqSHs T",
     "IMES AzKUbbRzTAK4sXs2sUMXqTUKIqZ3s TIMES KASKALrUpZAr TENUsSQUARED TIMES KURrGrMXqE2qIr OV",
     "ER ZIr3rBs KABA TENUrGrZ2qUr5s TIMES ArBURrMpKAP ELAMITEpAB TIMES NUNr2 TIMES AqMAR TIMES ",
     "KUGpDAG KISIM5 TIMES U2 PLUS MASHs3qISH PLUS SHUqUB TIMES SHEpEZEN TIMES GUDbaSHEpGA2 TIME",
     "S AN PLUS KAK PLUS AbaSH2qE22qIGpHUSHpKA TIMES ANSHEzSH3yGISHzUDyHI TIMES ASH2yLUMyPAySHUL",
     "yTUyUR2pLAGAB TIMES GIqU2 SHESHIG TIMES BADtTIMES ESH2 PLUS LALzSHUpMESHqUSH3 TIMES ZApNA4",
     "qINs9sDA2 TIMES BALbcGIqU11 ROTATED NINETY DEGREESpPESH2 ASTERISKqIR2pSAG TIMES IGI GUNUpT",
     "I2pUM TIMES MEq U"]),
   (0x12400, ["aCUNEIFORM NUMERIC SIGN TWO ASHyHREE ASHxFOUR ASHyIVE ASHxSIX ASHyEVEN ASHxEIGHT ",
     "ASHxNINE ASHxTHREE DISHxFOUR DISHyIVE DISHxSIX DISHyEVEN DISHxEIGHT DISHxNINE DISHxFOUR Uy",
     "IVE UxSIX UyEVEN UxEIGHT UxNINE UxONE GESH2xTWO GESH2yHREE GESH2xFOUR GESH2yIVE GESH2xSIX ",
     "GESH2yEVEN GESH2xEIGHT GESH2xNINE GESH2xONE GESHUxTWO GESHUyHREE GESHUxFOUR GESHUyIVE GESH",
     "UxTWO SHAR2yHREE SHAR2bi VARIANT FORMxFOUR SHAR2yIVE SHAR2xSIX SHAR2yEVEN SHAR2xEIGHT SHAR",
     "2xNINE SHAR2xONE SHARUxTWO SHARUyHREE SHARUbi VARIANT FORMxFOUR SHARUyIVE SHARUxSHAR2 TIME",
     "S GAL PLUS DISHbsMINxONE BURUxTWO BURUyHREE BURUbh VARIANT FORMxFOUR BURUyIVE BURUxTHREE V",
     "ARIANT FORM ESH16bt21xFOUR VARIANT FORM LIMMUbu4bu AbvBxSIX VARIANT FORM ASH9yEVEN VARIANT",
     " FORM IMIN3bu AbvBxEIGHT VARIANT FORM USSUbu3xNINE VARIANT FORM ILIMMUbv3bv4bv AxTWO ASH T",
     "ENUyHREE ASH TENUxFOUR ASH TENUyIVE ASH TENUxSIX ASH TENUxONE BAN2xTWO BAN2yHREE BAN2xFOUR",
     " BAN2bg VARIANT FORMyIVE BAN2bg VARIANT FORMxNIGIDAMINbdESHxONE ESHE3xTWO ESHE3xONE THIRD ",
     "DISHxTWO THIRDS DISHxFIVE SIXTHS DISHxONE THIRD VARIANT FORM AxTWO THIRDS VARIANT FORM AxO",
     "NE EIGHTH ASHbbQUARTER ASHyLD ASSYRIAN ONE SIXTHboQUARTERyNE QUARTER GURbbHALF GURxELAMITE",
     " ONE THIRDbfTWO THIRDSbfFORTYbgIFTYxFOUR U VARIANT FORMyIVE U VARIANT FORMxSIX U VARIANT F",
     "ORMyEVEN U VARIANT FORMxEIGHT U VARIANT FORMxNINE U VARIANT FORM"]),
   (0x12470, ["aCUNEIFORM PUNCTUATION SIGN OLD ASSYRIAN WORD DIVIDERbbVERTICAL COLONbbDIAGONAL C",
     "OLONbkTRICOLONbkQUADCOLON"]),
   (0x12480, ["aCUNEIFORM SIGN AB TIMES NUN TENUySHU2qD TIMES ESH2pBAD TIMES DISH TENUrHAR2 TIME",
     "S AB2bcNIbcZAqU OVER BU TIMES NA2pDA TIMES TAK4rG TIMES KURqIM TIMES IGIzU U Us2 TIMES UDq",
     "UG TIMES ANSHEbaSHbc AT LEFTzDINbaUNzERIN2zGAbaIbbR2 GUNUbbSHzHAbaIzIGI GUNUzKASKALbaURbbS",
     "HU2bf PLUS KASKALzLAK-020bbMbc TIMES KURbaUH PLUS GISHzMASHbaESbaIzNIzPIzSHEbaI GUNUpE2 TI",
     "MES KURyPAPqRIN2 XqSH2 CROSSING ESH2qZEN SHESHIG TIMES ASHbiHIbiIGI GUNUbiLAbkLbiMEbkSbiSU",
     "uTIMES SUpGA2 TIMES BAHAR2zDIM GUNUbaUG TIMES IGI GUNUbjKASKALzERENzGAbbR PLUS DIbiNEzHA P",
     "LUS AzKUSHU2 PLUS KASKALzLAMbc TIMES KURbaUHzMUSHzNEbb PLUS E2bhGIzSHIMzZIZ2rBA ROTATED NI",
     "NETY DEGREESqESHTIN TIMES UqISH TIMES GISH CROSSING GISHqU2 TIMES IGI GUNUrD PLUS GISH TIM",
     "ES TAK4pHA TENU GUNUqI TIMES ASH OVER HI TIMES ASHpKA TIMES BUyKAyU U UzRpLAGAB TIMES ZU O",
     "VER ZUrK-003u21v5u30u50v1u62u79 OVER LAK-079 GUNUu80v1 OVER LAK-081u92t130u42t210v9u20v5v8",
     "u38u65v6t343v7v8u83v4u90t441v9w TIMES GUbdIGIbdPAP PLUS LU3bmPAP PLUS LU3bdU2 PLUS BAu50v7",
     "u70u83u90v2v3v5t550t608u17w TIMES ASHbdBADbdDUN3 GUNU GUNUbdKU3bdLAbdTARbeEbdU2beDbeRUDAu3",
     "6u48w TIMES DUBbdGAbdIGIbg GUNUbdNIbdPAP PLUS PAP PLUS LU3bdSHESH PLUS KIbdUDbeRUDAt724u49",
     "qU2 GUNU TIMES ASHtTIMES DISHzHALzPAPbc PLUS PAP PLUS LU3zTAK4pMI PLUS ZA7qUSH OVER MUSH T",
     "IMES GAbkKAKpNINDA2 TIMES DIM GUNUbcGISHbdULbcHIbcKESH2bcLAK-050bcMASHbcPAP PLUS PAPbcUbd ",
     "PLUS UbdRUDApSAG GUNU TIMES HAtTIMES ENzSHE AT LEFTzTAK4qHA6 TENUrE OVER SHEtPLUS HUB2yNAM",
     "2ySARrU2 PLUS DUG TIMES NIzE2 TIMES ANqI TIMES TAK4pTAK4 PLUS SAGqUM TIMES GAN2 TENUzTHREE",
     " DISHpUR2 INVERTEDtTIMES UDrU TIMES DARA3zLAK-668baU3pZA7qU OVER ZU PLUS SARr5 TIMES THREE",
     " DISH TENU"]),
   (0x12f90, ["aCYPRO-MINOAN SIGN CM001w2w4w5w6w7w8w9v10w1w2xBw3w5w7w9v21w3w4w5w6w7w8w9v30w3w4w5",
     "w6w7w8w9v40w1w4w6w7w9v50w1w2w3w4w5w6w8w9v60w1w2w3w4w6w7w8w9v70w1w2w3w4w5xBw6w8w9v80w1w2w3w",
     "4w5w6w7w8w9v90w1w2w4w5w6w7w8w9u100w1w2w3w4w5w7w8w9v10w2w4u301w2"]),
   (0x13000, ["aEGYPTIAN HIEROGLYPH A001x2x3x4x5yAx6yAyBx7x8x9w10x1x2x3x4yAx5x6x7yAx8x9w20x1x2x3",
     "x4x5x6x7x8x9w30x1x2yAx3x4x5x6x7x8x9w40yAx1x2yAx3yAx4x5yAx6x7x8x9w50x1x2x3x4x5x6x7x8x9w60x1",
     "x2x3x4x5x6x7x8x9w70uB001x2x3x4x5yAx6x7x8x9uC001x2yAyByCx3x4x5x6x7x8x9w10yAx1x2x3x4x5x6x7x8",
     "x9w20x1x2x3x4uD001x2x3x4x5x6x7x8yAx9w10x1x2x3x4x5x6x7x8x9w20x1x2x3x4x5x6x7yAx8x9w30x1yAx2x",
     "3x4yAx5x6x7x8x9w40x1x2x3x4x5x6yAx7x8yAx9w50yAyByCyDyEyFyGyHyIx1x2yAx3x4yAx5x6x7x8x9w60x1x2",
     "x3x4x5x6x7yAyByCyDyEyFyGyHuE001x2x3x4x5x6x7x8yAx9yAw10x1x2x3x4x5x6yAx7yAx8x9w20yAx1x2x3x4x",
     "5x6x7x8yAx9w30x1x2x3x4yAx6x7x8uF001yAx2x3x4x5x6x7x8x9w10x1x2x3yAx4x5x6x7x8x9w20x1yAx2x3x4x",
     "5x6x7x8x9w30x1yAx2x3x4x5x6x7yAx8yAx9w40x1x2x3x4x5yAx6yAx7yAx8x9w50x1yAyByCx2x3uG001x2x3x4x",
     "5x6yAx7yAyBx8x9w10x1yAx2x3x4x5x6x7x8x9w20yAx1x2x3x4x5x6yAx7x8x9w30x1x2x3x4x5x6yAx7yAx8x9w4",
     "0x1x2x3yAx4x5yAx6x7x8x9w50x1x2x3x4uH001x2x3x4x5x6yAx7x8uI001x2x3x4x5yAx6x7x8x9yAw10yAx1yAx",
     "2x3x4x5uK001x2x3x4x5x6x7x8uL001x2yAx3x4x5x6yAx7x8uM001yAyBx2x3yAx4x5x6x7x8x9w10yAx1x2yAyBy",
     "CyDyEyFyGyHx3x4x5yAx6yAx7yAx8x9w20x1x2yAx3x4yAx5x6x7x8yAx9w30x1yAx2x3yAyBx4x5x6x7x8x9w40yA",
     "x1x2x3x4uN001x2x3x4x5x6x7x8x9w10x1x2x3x4x5x6x7x8yAyBx9w20x1x2x3x4x5yAx6x7x8x9w30x1x2x3yAx4",
     "yAx5yAx6x7yAx8x9w40x1x2vL001y2y3y4y5zAy6y7y8y9x10y1y2y3y4y5y6y7zAy8y9x20vU001y2y3y4y5y6y7y",
     "8y9x10zAy1zAy2y3y4y5y6y7y8zAy9x20y1y2zAuO001yAx2x3x4x5yAx6yAyByCyDyEyFx7x8x9w10yAyByCx1x2x",
     "3x4x5x6x7x8x9yAw20yAx1x2x3x4yAx5yAx6x7x8x9yAw30yAx1x2x3yAx4x5x6yAyByCyDx7x8x9w40x1x2x3x4x5",
     "x6x7x8x9w50yAyBx1uP001yAx2x3yAx4x5x6x7x8x9w10x1uQ001x2x3x4x5x6x7uR001x2yAx3yAyBx4x5x6x7x8x",
     "9w10yAx1x2x3x4x5x6yAx7x8x9w20x1x2x3x4x5x6x7x8x9uS001x2yAx3x4x5x6yAx7x8x9w10x1x2x3x4yAyBx5x",
     "6x7yAx8x9w20x1x2x3x4x5x6yAyBx7x8x9w30x1x2x3x4x5yAx6x7x8x9w40x1x2x3x4x5x6uT001x2x3yAx4x5x6x",
     "7yAx8yAx9yAw10x1yAx2x3x4x5x6yAx7x8x9w20x1x2x3x4x5x6x7x8x9w30x1x2yAx3yAx4x5x6uU001x2x3x4x5x",
     "6yAyBx7x8x9w10x1x2x3x4x5x6x7x8x9w20x1x2x3yAx4x5x6x7x8x9yAw30x1x2yAx3x4x5x6x7x8x9w40x1x2uV0",
     "01yAyByCyDyEyFyGyHyIx2yAx3x4x5x6x7yAyBx8x9w10x1yAyByCx2yAyBx3x4x5x6x7x8x9w20yAyByCyDyEyFyG",
     "yHyIyJyKyLx1x2x3yAx4x5x6x7x8yAx9yAw30yAx1yAx2x3yAx4x5x6x7yAx8x9w40yAuW001x2x3yAx4x5x6x7x8x",
     "9yAw10yAx1x2x3x4yAx5x6x7yAx8yAx9w20x1x2x3x4yAx5uX001x2x3x4yAyBx5x6yAx7x8yAuY001yAx2x3x4x5x",
     "6x7x8uZ001x2yAyByCyDx3yAyBx4yAx5yAx6x7x8x9w10x1x2x3x4x5yAyByCyDyEyFyGyHyIx6yAyByCyDyEyFyGy",
     "HuAA001y2y3y4y5y6y7zAzBy8y9x10y1y2y3y4y5y6y7y8y9x20y1y2y3y4y5y6y7y8y9x30y1y2"]),
   (0x13430, ["aEGYPTIAN HIEROGLYPH VERTICAL JOINERuHORIZONTAL JOINERuINSERT AT TOP STARTbeBOTTO",
     "M STARTbeTOP ENDbeBOTTOM ENDuOVERLAY MIDDLEuBEGIN SEGMENTuEND SEGMENT"]),
   (0x14400, ["aANATOLIAN HIEROGLYPH A001y2y3y4y5y6y7y8y9x10zAy1y2y3y4y5y6y7y8y9x20y1y2y3y4y5y6z",
     "Ay7y8y9x30y1y2y3y4y5y6y7y8y9zAx40y1zAy2y3y4y5zAy6zAzBy7y8y9x50y1y2y3y4y5y6y7y8y9x60y1y2y3y",
     "4y5y6zAzBzCy7y8y9x70y1y2y3y4y5y6y7y8y9x80y1y2y3y4y5y6y7y8y9x90y1y2y3y4y5y6y7zAy8zAy9w100zA",
     "y1zAy2zAy3y4zAzBzCy5zAzBy6y7zAzBzCy8y9x10zAzBy1y2y3y4y5zAy6y7y8y9x20y1y2y3y4y5zAy6y7y8y9x3",
     "0y1y2y3y4y5zAy6y7y8y9x40y1y2y3y4y5y6y7y8y9x50y1y2y3y4y5y6y7y8y9x60y1y2y3y4y5y6y7y8y9x70y1y",
     "2y3y4y5y6y7y8y9x80y1y2y3y4y5y6y7y8y9x90y1y2y3y4y5y6y7y8y9w200y1y2zAzBy3y4y5y6y7zAy8y9zAx10",
     "y1y2y3y4y5zAy6zAy7y8y9x20y1y2y3y4y5y6y7zAy8y9x30y1y2y3y4y5y6y7y8y9x40y1y2y3y4y5y6y7y8y9x50",
     "y1y2y3y4y5y6y7y8y9x60y1y2y3y4y5y6y7zAy8y9x70y1y2y3y4y5y6y7y8y9x80y1y2y3y4y5y6y7y8y9zAx90y1",
     "y2y3y4zAy5y6y7y8y9zAw300y1y2y3y4y5y6y7y8y9zAx10y1y2y3y4y5y6y7y8y9x20y1y2y3y4y5y6y7y8y9zAx3",
     "0y1y2AzBzCy3y4y5y6zAzBzCy7y8y9x40y1y2y3y4y5y6y7y8y9x50y1y2y3y4y5y6y7y8y9zAx60y1y2y3y4zAy5y",
     "6y7y8zAy9x70y1zAy2y3y4y5y6y7y8y9x80y1zAy2y3 RA OR RIzAy4y5y6zAy7y8y9x90y1y2y3 EIGHTy4y5y6y",
     "7y8y9w400y1y2y3y4y5y6y7y8y9x10 BEGIN LOGOGRAM MARKzA END LOGOGRAM MARKy1y2y3y4y5y6y7y8y9x2",
     "0y1y2y3y4y5y6y7y8y9x30y1y2y3y4y5y6y7y8y9x40y1y2y3y4y5y6y7y8y9x50zAy1y2y3y4y5y6y7zAy8y9x60y",
     "1y2y3y4y5y6y7y8y9x70y1y2y3y4y5y6y7y8y9x80y1y2y3y4y5y6y7y8y9x90y1y2y3y4y5y6y7w501y2y3y4y5y6",
     "y7y8y9x10y1y2y3y4y5y6y7y8y9x20y1y2y3y4y5y6y7y8y9x30"]),
   (0x16800, ["aBAMUM LETTER PHASE-A NGKUE MFONvGBIEE FONvPON MFON PIPAEMGBIEEbkBAvNAA MFONvSHUE",
     "NSHUETvTITA MFONvNZA MFONvSHINDA PA NJIvPON PA NJI PIPAEMGBIEEbmBAvMAEMBGBIEEvTU MAEMBAvNG",
     "ANGUvMAEMVEUXxNSUAEwVEUAENGAMvSEUNYAMvNTOQPENvKEUKEUTNDAvNKINDIvSUUvNGKUENZEUMvLAPAQwET KU",
     "TvNTAP MFAAvMAEKEUPvPASHAEvGHEUAERAEvPAMSHAEvMON NGGEUAETvNZUN MEUTvU YUQ NAEvGHEUAEGHEUAE",
     "vNTAP NTAAvSISAvMGBASAwEUNJOMNDEUQwOOMPUQvKAFAvPA LEERAEWAvNDA LEERAEWAvPETvMAEMKPENvNIKAv",
     "PUPvTUAEPvLUAEPvSONJAMvTEUTEUWENvMAENYIvKETvNDAANGGEUAETvKUOQvMOOMEUTvSHUMvLOMMAEvFIRIvROM",
     "vKPOQvSOQvMAP PIEETvSHIRAEvNTAPvSHOQ NSHUT YUMvNYIT MONGKEUAEQvPAARAEvNKAARAEvUNKNOWNvNGGE",
     "NvMAESIvNJAMvMBANYIvNYETvTEUAENvSOTvPAAMvNSHIEEvMAEMvNYIvKAQvNSHAvVEEvLUvNENwAQvMBAQtB NSH",
     "UETvTU MAEMGBIEEvSIEEwET TUvLOM NTEUMvMBA MAELEEvKIEEMvYEURAEvMBAARAEvKAMvPEESHIvYAFU LEER",
     "AEWAvLAM NSHUT NYAMvNTIEE SHEUOQwDU NJAAvGHEUGHEUAEMvPITvTU NSIEEvSHET NJAQyUAEQTUvMFON TE",
     "UAEQwBIT MBAAKETvNYI NTEUMvKEUPUQvGHEUGHENvKEUYEUXvLAANAEvPARUMvVEUMvNGKINDI MVOPxGEU MBUv",
     "WUAETvSAKEUAEvTAAMvMEUQvNGGUOQbb LARGEvMFIYAQvSUEvMBEURIwONTIEENvNYAEMAEvPUNGAAMvMEUT NGGE",
     "ETvFEUXvMBUOQvFEEvKEUAEMvMA NJEUAENAbaUQAvLETvNGGAAMwSENvMAvKIQvNGOMtC NGKUE MAEMBAwZAvYUM",
     "vWANGKUOQvNGGENwDEUAEREEwGKAQvGHARAEvMBEEKEETvGBAYIvNYIR MKPARAQ MEUNwTU MBITvMBEUMvPIRIEE",
     "NvNDOMBUvMBAA CABBAGE-TREEvKEUSHEUAEPvGHAPvKEUKAQvYU MUOMAEvNZEUMvMBUEvNSEUAENvMBITvYEUQvK",
     "PARAQwAAvSEUXvNDIDAvTAASHAEvNJUEQvTITA YUEvSUAETvNGGUAEN NYAMvVEUXvNANSANAQvMA KEUAERIvNTA",
     "AwGGUONvLAPvMBIRIEENwGBASAQvNTEUNGBAvTEUTEUXvNGGUMvFUEvNDEUTwSAxHAQvBUNGvVEUAEPENvMBERAEvR",
     "UvNJAEMvLAMvTITUAEPvNSUOT NGOMwJEEEEvKETvNGGUvMAESIwBUAEMvLUvKUTvNJAMwGOMvWUPvNGGUEETwSOMw",
     "TENvKUOP NKAARAEvNSUNwDAMvMA NSIEEvYAAvNDAPvSHUEQwETFONvMBIwAEMBAwBANYIvKEUSEUXvMBEUXvKEUM",
     "vMBAA PICKETvYUWOQvNJEUXvMIEEwUAEvSHIQvKEN LAWzFATIGUEvNGAQwAQvLIQvPINwENvTETtD MBUOvWAPvN",
     "JIvMFONvNJIEEvLIEEvNJEUTwSHEEwGGAAMAEwYAMvWUAENvNGKUNvSHEEvNGKAPvKEUAETMEUNvTEUTvSHEUAEvNJ",
     "APvSUEvKETvYAEMMAEvKUOMvSAPvMFEUTvNDEUXvMALEERIwEUTvSEUAEQvYENvNJEUAEMvKEUOT MBUAEvNGKEURI",
     "vTUvGHAAvNGKYEEvFEUFEUAETvNDEEvMGBOFUMvLEUAEPvNDONvMONIwGBEUNvPUUTvMGBIEEwFOvLUMvNSIEEPvMB",
     "AAvKWAETvNYETvTEUAENvSOTvYUWOQvKEUMvRAEMvTEEEEvNGKEUAEQvMFEUAEvNSIEETvKEUPvPIPwEUTAEvNYUEv",
     "LETvNGGAAMvMFIEEvNGGWAENvYUOMvPAPvYUOPvNDAMwTEUMvSUAEvKUNvNGGEUXxKIEEvTUOTvMEUNvKUQvNSUMvT",
     "EUNvMAENJETvNGGAPvLEUMvNGGUOMwSHUTwJUEQvGHEUAEvKUvREN OLDvTAEwOQvNYIvRIIvLEEEEvMEEEEvMvSUU",
     "vMUvSHIIxEUXvKYEEvNUvSHUvNTEEvPEEvNIvSHOQvPUQvMVOPvLOQvREN MUCHvTIvNTUUvMBAA SEVENvSAQvFAA",
     "tE NDAPvTOONvMBEUMvLAPvVOMvLOONvPAAvSOMvRAQvNSHUOPwDUNvPUAEvTAMvNGKAvKPEUXvWUOvSEEvNGGEUAE",
     "TvPAAMvTOOvKUOPvLOMvNSHIEEwGOPvMAEMvNGKEUXxOQwSHUEvRIMGBAvNJEUXvPEEMvSAAvNGGURAEvMGBAvGHEU",
     "XvNGKEUAEMwJAEMLIvMAPvLOOTvNGGEEEEwDIQvTAEN NTEUMvSETvPUMvNDAA SOFTNESSwGGUAESHAE NYAMvYIE",
     "EvGHEUNvTUAEvYEUAEvPOvTUMAEvKEUAEvSUAENvTEUAEQvVEUAEvWEUXvLAAMvPUvTAAQvGHAAMAEvNGEUREUTvSH",
     "EUAEQvMGBENwBEEvNZAQwKOMvGBETvTUMvKUETvYAPvNYI CLEAVERvYITvMFEUQvNDIAQvPIEEQvYUEQvLEUAEMvF",
     "UEvGBEUXvNGKUPvKETvMAEvNGKAAMIvGHETvFAvNTUMvPEUTvYEUMvNGGEUAEwYI BETWEENwZUQvPOONvMIEEvFUE",
     "TvNAEvMUAEvGHEUAEvFU IvMVIvPUAQvNGKUMvKUTvPIETvNTAPvYEUAETvNGGUPvPA PEOPLEvFU CALLwOMvNJEE",
     "vAvTOQvOvIvLAQvPA PLURALvTAAxQvNDAA MY HOUSEvSHIQvYEUXvNGUAEvYUAENwOQ SWIMMINGzCOVERwUQxNv",
     "KEUXvPEUXvNJEE EPOCHvPUEvWUEvFEEvVEEvLUvMIvREUXwAEvNGUAETxAvSHOyQvFU REMEDYvNAvPIvLOQvKOvM",
     "ENwAxQvTEUvKIvMONvTENvFAQvGHOMtF KAvUvKUvEEvREEvTAEvNYIvLAvRIIxEEvMEEEEvTAAvNDAAwJAEMvMvSU",
     "UwHIIwIwEUXvKYEEwETvNUAEwUwJUAEvYOQvSHUvYAvNSHAvPEUXvNTEEvWUEvPEEvRUvNIvREUXvKENvNGKWAENxG",
     "AvSHOvPUAEvFOMvWAvLIwOQvKOvMBENvRENvMAwOwBAAvTETvKPAvSAMBAvVUEQ"]),
   (0x16a40, ["aMRO LETTER TAlNGIlYOlMIMlBAlDAlAlPHIlKHAIlHAOlDAIlCHUlKEAAElOLlMAEMlNINlPAlOOlOl",
     "ROlSHIlTHEAlEAlWAlElKOlLANmAlHAIlRIlTEK"]),
   (0x16a60, ["aMRO DIGIT ZEROkONEkTWOlHREEkFOURlIVEkSIXlEVENkEIGHTkNINE"]),
   (0x16a6e, ["aMRO DANDAfOUBLE DANDAaTANGSA LETTER OZpCpQpXoAZpCpQpXoVZpCpQpXoEZpCpQpXoIZpCpQpX",
     "oUZpCpQpXoAWZqCqQqXoUIZqCqQqXoFINAL NGoLONG UEXoSHORT UEZuAWXoUECqZqQqXpIUZrCrQrXoMZpCpQpX",
     "oKApHAoGAoNGAoSAoYAoWAoPAoNYAoPHAoBAoMAoNAoHAoLAoHTAoTAoDAoRAoNHAoSHAoCAoTSAoGHAoHTTAoTHAo",
     "XAoFAoDHAoCHAoZA"]),
   (0x16ac0, ["aTANGSA DIGIT ZEROnONEnTWOoHREEnFOURoIVEnSIXoEVENnEIGHTnNINE"]),
   (0x16ad0, ["aBASSA VAH LETTER ENNIrKArSErFArMBErYIErGAHrDHIIrKPAHrJOrHWAHrWArZOrGBUrDOrCErUWU",
     "rTOrBArVUrYEINrPArWADDArArOsOrUrEErErI"]),
   (0x16af0, ["aBASSA VAH COMBINING HIGH TONEuLOW TONEuMID TONEuLOW-MID TONEuHIGH-LOW TONEkFULL ",
     "STOP"]),
   (0x16b00, ["aPAHAWH HMONG VOWEL KEEBwVuIBvVuAUBwVuUBvVuEBvVuAIBwVuOOBwVuAWBwVuUABwVuOBvVuIABw",
     "VuABvVuWBvVuAABwVnCONSONANT VAUxNTSAUxLAUxHAUxNLAUxRAUxNKAUxQHAUxYAUxHLAUxMAUxCHAUxNCHAUxH",
     "NAUxPLHAUxNTHAUyAUxAUxXAUxCAUnMARK CIM TUBwSOwKESxHAVwSUAMwHOMwTAUMnSIGN VOS THOMxSHAB CEE",
     "BsCIM CHEEMsVOS THIABwFEEMsXYEEM NTXIVyRHOyTOVyFAIBsVOS SEEVsMEEJ SUABsVOS NRUAsIB YAMsXAU",
     "SsCIM TSOV ROG"]),
   (0x16b50, ["aPAHAWH HMONG DIGIT ZEROtONEtTWOuHREEtFOURuIVEtSIXuEVENtEIGHTtNINE"]),
   (0x16b5b, ["aPAHAWH HMONG NUMBER TENSuHUNDREDSuTEN THOUSANDSuMILLIONSuHUNDRED MILLIONSuTEN BI",
     "LLIONSvRILLIONS"]),
   (0x16b63, ["aPAHAWH HMONG SIGN VOS LUBsXYOOsHLIsTHIRD-STAGE HLIsZWJ THAJsHNUBsNQIGsXIABsNTUJs",
     "AVsTXHEEJ CEEVsMEEJ TSEEBsTAUsLOSsMUSsCIM HAIS LUS NTOG NTOGwCUAM TSHOOJwTXWVba CHWVwPUB D",
     "AWBwNRES TOS"]),
   (0x16b7d, ["aPAHAWH HMONG CLAN SIGN TSHEEJxYEEGxLISyAUJxXYOOJxKOOxHAWJxMUASxTHOJySABxPHABxKHA",
     "BxHAMxVAJxFAJxYAJxTSWBxKWMxVWJ"]),
   (0x16e40, ["aMEDEFAIDRIN CAPITAL LETTER MbbSbbVbbWbbATIUbbZbbKPbbPbbTbbGbbFbbIbbKbbAbbJbbEbbB",
     "bbCbbUbbYUbbLbbQbbHPbbNYbbXbbDbbOEbbNbbRbbObbAIbbYmSMALL LETTER MzSzVzWzATIUzZzKPzPzTzGzFz",
     "IzKzAzJzEzBzCzUzYUzLzQzHPzNYzXzDzOEzNzRzOzAIzYmDIGIT ZEROsONEsTWOtHREEsFOURtIVEsSIXtEVENsE",
     "IGHTsNINEmNUMBER TENtELEVENtTWELVEuHIRTEENtFOURTEENuIFTEENtSIXTEENuEVENTEENtEIGHTEENtNINET",
     "EENmDIGIT ONE ALTERNATE FORMsTWO ALTERNATE FORMtHREE ALTERNATE FORMmCOMMAmFULL STOPmSYMBOL",
     " AIVAmEXCLAMATION OH"]),
   (0x16f00, ["aMIAO LETTER PAmBAmYI PAmPLAmMAnHAmARCHAIC MAmFAmVAnFAmTAmDAmYI TTAqAmTTAmDDAmNAn",
     "HAmYI NNAmARCHAIC NAmNNAoHAmLAnYAnHAoYAmTLHAmDLHAmTLHYAmDLHYAmKAmGAmYI KAmQAnGAmNGAoHAmARC",
     "HAIC NGAmHAmXAmGHAoHAmTSSAmDZZAmNYAoHAmTSHAmDZHAmYI TSHApDZHAmREFORMED TSHAmSHAnSAmZHAnSHA",
     "mTSAmDZAmYI TSAmSAmZAnSAnZAoSAmARCHAIC ZZAmZZYAoSYAmWAmAHmHHAmBRImSYImDZYImTEnSEmRTE"]),
   (0x16f4f, ["aMIAO SIGN CONSONANT MODIFIER BARfLETTER NASALIZATIONfSIGN ASPIRATIONkREFORMED VO",
     "ICINGtASPIRATIONfVOWEL SIGN ArArHHrNsGqOrOqWOqWqErNsGqOEYqIrAsNtGrOrErIrUrNGqUrAsNtGrUrEIr",
     "NGqYrIqAEsEqERRqROUNDED ERRqERqROUNDED ERqAIqEIqAUqOUqNrGqUOGqYUIqOGrERqVWqIGqEAqIONGqUI"]),
   (0x16f8f, ["aMIAO TONE RIGHTkTOP RIGHTkABOVEkBELOWfLETTER TONE-2r3r4r5r6r7r8mREFORMED TONE-1b",
     "a2ba4ba5ba6ba8"]),
   (0x16fe0, ["aTANGUT ITERATION MARKaNUSHU ITERATION MARKaOLD CHINESE HOOK MARKmITERATION MARKa",
     "KHITAN SMALL SCRIPT FILLER"]),
   (0x16ff0, ["aVIETNAMESE ALTERNATE READING MARK CAbiNHAY"]),
   (0x18800, ["aTANGUT COMPONENT-001t2t3t4t5t6t7t8t9s10t1t2t3t4t5t6t7t8t9s20t1t2t3t4t5t6t7t8t9s3",
     "0t1t2t3t4t5t6t7t8t9s40t1t2t3t4t5t6t7t8t9s50t1t2t3t4t5t6t7t8t9s60t1t2t3t4t5t6t7t8t9s70t1t2t",
     "3t4t5t6t7t8t9s80t1t2t3t4t5t6t7t8t9s90t1t2t3t4t5t6t7t8t9r100t1t2t3t4t5t6t7t8t9s10t1t2t3t4t5",
     "t6t7t8t9s20t1t2t3t4t5t6t7t8t9s30t1t2t3t4t5t6t7t8t9s40t1t2t3t4t5t6t7t8t9s50t1t2t3t4t5t6t7t8",
     "t9s60t1t2t3t4t5t6t7t8t9s70t1t2t3t4t5t6t7t8t9s80t1t2t3t4t5t6t7t8t9s90t1t2t3t4t5t6t7t8t9r200",
     "t1t2t3t4t5t6t7t8t9s10t1t2t3t4t5t6t7t8t9s20t1t2t3t4t5t6t7t8t9s30t1t2t3t4t5t6t7t8t9s40t1t2t3",
     "t4t5t6t7t8t9s50t1t2t3t4t5t6t7t8t9s60t1t2t3t4t5t6t7t8t9s70t1t2t3t4t5t6t7t8t9s80t1t2t3t4t5t6",
     "t7t8t9s90t1t2t3t4t5t6t7t8t9r300t1t2t3t4t5t6t7t8t9s10t1t2t3t4t5t6t7t8t9s20t1t2t3t4t5t6t7t8t",
     "9s30t1t2t3t4t5t6t7t8t9s40t1t2t3t4t5t6t7t8t9s50t1t2t3t4t5t6t7t8t9s60t1t2t3t4t5t6t7t8t9s70t1",
     "t2t3t4t5t6t7t8t9s80t1t2t3t4t5t6t7t8t9s90t1t2t3t4t5t6t7t8t9r400t1t2t3t4t5t6t7t8t9s10t1t2t3t",
     "4t5t6t7t8t9s20t1t2t3t4t5t6t7t8t9s30t1t2t3t4t5t6t7t8t9s40t1t2t3t4t5t6t7t8t9s50t1t2t3t4t5t6t",
     "7t8t9s60t1t2t3t4t5t6t7t8t9s70t1t2t3t4t5t6t7t8t9s80t1t2t3t4t5t6t7t8t9s90t1t2t3t4t5t6t7t8t9r",
     "500t1t2t3t4t5t6t7t8t9s10t1t2t3t4t5t6t7t8t9s20t1t2t3t4t5t6t7t8t9s30t1t2t3t4t5t6t7t8t9s40t1t",
     "2t3t4t5t6t7t8t9s50t1t2t3t4t5t6t7t8t9s60t1t2t3t4t5t6t7t8t9s70t1t2t3t4t5t6t7t8t9s80t1t2t3t4t",
     "5t6t7t8t9s90t1t2t3t4t5t6t7t8t9r600t1t2t3t4t5t6t7t8t9s10t1t2t3t4t5t6t7t8t9s20t1t2t3t4t5t6t7",
     "t8t9s30t1t2t3t4t5t6t7t8t9s40t1t2t3t4t5t6t7t8t9s50t1t2t3t4t5t6t7t8t9s60t1t2t3t4t5t6t7t8t9s7",
     "0t1t2t3t4t5t6t7t8t9s80t1t2t3t4t5t6t7t8t9s90t1t2t3t4t5t6t7t8t9r700t1t2t3t4t5t6t7t8t9s10t1t2",
     "t3t4t5t6t7t8t9s20t1t2t3t4t5t6t7t8t9s30t1t2t3t4t5t6t7t8t9s40t1t2t3t4t5t6t7t8t9s50t1t2t3t4t5",
     "t6t7t8t9s60t1t2t3t4t5t6t7t8aKHITAN SMALL SCRIPT CHARACTER-18B00bi1bi2bi3bi4bi5bi6bi7bi8bi9",
     "biAbiBbiCbiDbiEbiFbh10bi1bi2bi3bi4bi5bi6bi7bi8bi9biAbiBbiCbiDbiEbiFbh20bi1bi2bi3bi4bi5bi6b",
     "i7bi8bi9biAbiBbiCbiDbiEbiFbh30bi1bi2bi3bi4bi5bi6bi7bi8bi9biAbiBbiCbiDbiEbiFbh40bi1bi2bi3bi",
     "4bi5bi6bi7bi8bi9biAbiBbiCbiDbiEbiFbh50bi1bi2bi3bi4bi5bi6bi7bi8bi9biAbiBbiCbiDbiEbiFbh60bi1",
     "bi2bi3bi4bi5bi6bi7bi8bi9biAbiBbiCbiDbiEbiFbh70bi1bi2bi3bi4bi5bi6bi7bi8bi9biAbiBbiCbiDbiEbi",
     "Fbh80bi1bi2bi3bi4bi5bi6bi7bi8bi9biAbiBbiCbiDbiEbiFbh90bi1bi2bi3bi4bi5bi6bi7bi8bi9biAbiBbiC",
     "biDbiEbiFbhA0bi1bi2bi3bi4bi5bi6bi7bi8bi9biAbiBbiCbiDbiEbiFbhB0bi1bi2bi3bi4bi5bi6bi7bi8bi9b",
     "iAbiBbiCbiDbiEbiFbhC0bi1bi2bi3bi4bi5bi6bi7bi8bi9biAbiBbiCbiDbiEbiFbhD0bi1bi2bi3bi4bi5bi6bi",
     "7bi8bi9biAbiBbiCbiDbiEbiFbhE0bi1bi2bi3bi4bi5bi6bi7bi8bi9biAbiBbiCbiDbiEbiFbhF0bi1bi2bi3bi4",
     "bi5bi6bi7bi8bi9biAbiBbiCbiDbiEbiFbgC00bi1bi2bi3bi4bi5bi6bi7bi8bi9biAbiBbiCbiDbiEbiFbh10bi1",
     "bi2bi3bi4bi5bi6bi7bi8bi9biAbiBbiCbiDbiEbiFbh20bi1bi2bi3bi4bi5bi6bi7bi8bi9biAbiBbiCbiDbiEbi",
     "Fbh30bi1bi2bi3bi4bi5bi6bi7bi8bi9biAbiBbiCbiDbiEbiFbh40bi1bi2bi3bi4bi5bi6bi7bi8bi9biAbiBbiC",
     "biDbiEbiFbh50bi1bi2bi3bi4bi5bi6bi7bi8bi9biAbiBbiCbiDbiEbiFbh60bi1bi2bi3bi4bi5bi6bi7bi8bi9b",
     "iAbiBbiCbiDbiEbiFbh70bi1bi2bi3bi4bi5bi6bi7bi8bi9biAbiBbiCbiDbiEbiFbh80bi1bi2bi3bi4bi5bi6bi",
     "7bi8bi9biAbiBbiCbiDbiEbiFbh90bi1bi2bi3bi4bi5bi6bi7bi8bi9biAbiBbiCbiDbiEbiFbhA0bi1bi2bi3bi4",
     "bi5bi6bi7bi8bi9biAbiBbiCbiDbiEbiFbhB0bi1bi2bi3bi4bi5bi6bi7bi8bi9biAbiBbiCbiDbiEbiFbhC0bi1b",
     "i2bi3bi4bi5bi6bi7bi8bi9biAbiBbiCbiDbiEbiFbhD0bi1bi2bi3bi4bi5"]),
   (0x1aff0, ["aKATAKANA LETTER MINNAN TONE-2bc3bc4bc5"]),
   (0x1aff5, ["aKATAKANA LETTER MINNAN TONE-7bc8xNASALIZED TONE-1bm2bm3bm4bm5"]),
   (0x1affd, ["aKATAKANA LETTER MINNAN NASALIZED TONE-7bm8"]),
   (0x1b000, ["aKATAKANA LETTER ARCHAIC EaHIRAGANA LETTER ARCHAIC YEbENTAIGANA LETTER A-1u2u3uWO",
     "sI-1u2u3u4sU-1u2u3u4u5sE-2u3u4u5u6sO-1u2u3sKA-1v2v3v4v5v6v7v8v9v10w1vKEtI-1v2v3v4v5v6v7v8t",
     "U-1v2v3v4v5v6v7tE-1v2v3v4v5v6tO-1v2v3vKIsSA-1v2v3v4v5v6v7v8tI-1v2v3v4v5v6tU-1v2v3v4v5v6v7v",
     "8tE-1v2v3v4v5tO-1v2v3v4v5v6v7sTA-1v2v3v4tI-1v2v3v4v5v6v7tU-1v2v3v4vTOtE-1v2v3v4v5v6v7v8v9t",
     "O-1v2v3v4v5v6vRAsNA-1v2v3v4v5v6v7v8v9tI-1v2v3v4v5v6v7vTEtU-1v2v3tE-1v2v3v4v5v6vKOtO-1v2v3v",
     "4v5sHA-1v2v3v4v5v6v7v8v9v10w1tI-1v2v3v4v5v6v7tU-1v2v3tE-1v2v3v4v5v6v7tO-1v2v3v4v5v6v7v8sMA",
     "-1v2v3v4v5v6v7tI-1v2v3v4v5v6v7tU-1v2v3v4tE-1v2vMAtO-1v2v3v4v5v6sYA-1v2v3v4v5vYOtU-1v2v3v4t",
     "O-1v2v3v4v5v6sRA-1v2v3v4tI-1v2v3v4v5v6v7tU-1v2v3v4v5v6tE-1v2v3v4tO-1v2v3v4v5v6sWA-1v2v3v4v",
     "5tI-1v2v3v4v5tE-1v2v3v4tO-1v2v3v4v5v6v7sN-MU-MO-1ba2bIRAGANA LETTER ARCHAIC WUaKATAKANA LE",
     "TTER ARCHAIC YIzEyWU"]),
   (0x1b150, ["aHIRAGANA LETTER SMALL WIxExO"]),
   (0x1b164, ["aKATAKANA LETTER SMALL WIxExOwN"]),
   (0x1b170, ["aNUSHU CHARACTER-1B170u1u2u3u4u5u6u7u8u9uAuBuCuDuEuFt80u1u2u3u4u5u6u7u8u9uAuBuCuD",
     "uEuFt90u1u2u3u4u5u6u7u8u9uAuBuCuDuEuFtA0u1u2u3u4u5u6u7u8u9uAuBuCuDuEuFtB0u1u2u3u4u5u6u7u8u",
     "9uAuBuCuDuEuFtC0u1u2u3u4u5u6u7u8u9uAuBuCuDuEuFtD0u1u2u3u4u5u6u7u8u9uAuBuCuDuEuFtE0u1u2u3u4",
     "u5u6u7u8u9uAuBuCuDuEuFtF0u1u2u3u4u5u6u7u8u9uAuBuCuDuEuFs200u1u2u3u4u5u6u7u8u9uAuBuCuDuEuFt",
     "10u1u2u3u4u5u6u7u8u9uAuBuCuDuEuFt20u1u2u3u4u5u6u7u8u9uAuBuCuDuEuFt30u1u2u3u4u5u6u7u8u9uAuB",
     "uCuDuEuFt40u1u2u3u4u5u6u7u8u9uAuBuCuDuEuFt50u1u2u3u4u5u6u7u8u9uAuBuCuDuEuFt60u1u2u3u4u5u6u",
     "7u8u9uAuBuCuDuEuFt70u1u2u3u4u5u6u7u8u9uAuBuCuDuEuFt80u1u2u3u4u5u6u7u8u9uAuBuCuDuEuFt90u1u2",
     "u3u4u5u6u7u8u9uAuBuCuDuEuFtA0u1u2u3u4u5u6u7u8u9uAuBuCuDuEuFtB0u1u2u3u4u5u6u7u8u9uAuBuCuDuE",
     "uFtC0u1u2u3u4u5u6u7u8u9uAuBuCuDuEuFtD0u1u2u3u4u5u6u7u8u9uAuBuCuDuEuFtE0u1u2u3u4u5u6u7u8u9u",
     "AuBuCuDuEuFtF0u1u2u3u4u5u6u7u8u9uAuB"]),
   (0x1bc00, ["aDUPLOYAN LETTER HqXqPqTqFqKqLqBqDqVqGqRqP NqD SqF NqK MqR SqTHqSLOAN DHqDHqKKqSL",
     "OAN JqHLqLHqRHqMqNqJqSqM NqN MqJ MqS JqM WITH DOTqN WITH DOTqJ WITH DOTbaS INSIDE AND ABOV",
     "EqS WITH DOTba BELOWqM SqN SqJ SqS SqM N SqN M SqJ M SqS J SqJ S WITH DOTsNt SqS Tt RsPt R",
     "qT SsR SqWrHr RqS NsMqK R SqG R SqS Kt RqAqSLOAN OWqOAqOqAOUqIqEqIEqSHORT IqUIqEEqSLOAN EH",
     "qROMANIAN IqSLOAN EEqLONG IqYEqUqEUqXWqU NqLONG UqROMANIAN UqUHqSLOAN UqOOHrWrUqWArOrIrEIr",
     "OWqNASAL UwOwIwAqPERNIN ANyMqSLOAN ENwANwONqVOCALIC M"]),
   (0x1bc70, ["aDUPLOYAN AFFIX LEFT HORIZONTAL SECANTpMID HORIZONTAL SECANTpRIGHT HORIZONTAL SEC",
     "ANTpLOW VERTICAL SECANTpMID VERTICAL SECANTpHIGH VERTICAL SECANTpATTACHED SECANTyLEFT-TO-R",
     "IGHT SECANTyTANGENTbaILyE HOOKyI HOOKyTANGENT HOOK"]),
   (0x1bc80, ["aDUPLOYAN AFFIX HIGH ACUTEuTIGHT ACUTEuGRAVEuLONG GRAVEuDOTuCIRCLEuLINEuWAVEuVERT",
     "ICAL"]),
   (0x1bc90, ["aDUPLOYAN AFFIX LOW ACUTEtTIGHT ACUTEtGRAVEtLONG GRAVEtDOTtCIRCLEtLINEtWAVEtVERTI",
     "CALtARROW"]),
   (0x1bc9c, ["aDUPLOYAN SIGN O WITH CROSSjTHICK LETTER SELECTORjDOUBLE MARKjPUNCTUATION CHINOOK",
     " FULL STOPaSHORTHAND FORMAT LETTER OVERLAPrCONTINUING OVERLAPrDOWN STEPrUP STEP"]),
   (0x1cf00, ["aZNAMENNY COMBINING MARK GORAZDO NIZKO S KRYZHEM ON LEFTyNIZKO S KRYZHEM ON LEFTy",
     "TSATA ON LEFTyGORAZDO NIZKO ON LEFTyNIZKO ON LEFTySREDNE ON LEFTyMALO POVYSHE ON LEFTyPOVY",
     "SHE ON LEFTyVYSOKO ON LEFTyMALO POVYSHE S KHOKHLOM ON LEFTyPOVYSHE S KHOKHLOM ON LEFTyVYSO",
     "KO S KHOKHLOM ON LEFTyGORAZDO NIZKO S KRYZHEM ON RIGHTyNIZKO S KRYZHEM ON RIGHTyTSATA ON R",
     "IGHTyGORAZDO NIZKO ON RIGHTyNIZKO ON RIGHTySREDNE ON RIGHTyMALO POVYSHE ON RIGHTyPOVYSHE O",
     "N RIGHTyVYSOKO ON RIGHTyMALO POVYSHE S KHOKHLOM ON RIGHTyPOVYSHE S KHOKHLOM ON RIGHTyVYSOK",
     "O S KHOKHLOM ON RIGHTyTSATA S KRYZHEMyMALO POVYSHE S KRYZHEMySTRANNO MALO POVYSHEyPOVYSHE ",
     "S KRYZHEMbhTRANNOyVYSOKO S KRYZHEMyMALO POVYSHE STRANNOyGORAZDO VYSOKOyZELOyONyRAVNOyTIKHA",
     "YAyBORZAYAyUDARKAyPODVERTKAyLOMKAyKUPNAYAzACHKAyZEVOKySKOBAyRAZSEKAyKRYZH ON LEFT"]),
   (0x1cf30, ["aZNAMENNY COMBINING TONAL RANGE MARK MRACHNObkSVETLObkTRESVETLOtMARK ZADERZHKAyDE",
     "MESTVENNY ZADERZHKAyOTSECHKAyPODCHASHIEbi WITH VERTICAL STROKEyCHASHKAbf POLNAYAyOBLACHKOy",
     "SOROCHYA NOZHKAyTOCHKAyDVOETOCHIEtATTACHING VERTICAL OMETtMARK CURVED OMETyKRYZHtLOWER TON",
     "AL RANGE INDICATORjPRIZNAK MODIFIER LEVEL-2bg3baDIRECTION FLIPbaKRYZHbaROG"]),
   (0x1cf50, ["aZNAMENNY NEUME KRYUKu TIKHYpPARAKLITpDVA V CHELNUpKLYUCHpZANOZHEKpSTOPITSAx S OC",
     "HKOMpPEREVODKAy NEPOSTOYANNAYApSTOPITSA WITH SOROCHYA NOZHKApCHELYUSTKApPALKApZAPYATAYApGO",
     "LUBCHIK BORZYzTIKHYzMRACHNYzSVETLYzTRESVETLYpVRAKHIYA PROSTAYAyMRACHNAYAySVETLAYAyTRESVETL",
     "AYAyKLYUCHEVAYA PROSTAYAbkMRACHNAYAbkSVETLAYAbkTRESVETLAYApDOUBLE ZAPYATAYApREVERSED CHELY",
     "USTKApDERBITSApKHAMILOpCHASHKApPODCHASHIEpSKAMEYTSA MRACHNAYAzSVETLAYAzTRESVETLAYAbaIKHAYA",
     "pDEMESTVENNY KLYUCHpSKAMEYTSA KLYUCHEVAYA SVETLAYAbgNEPOSTOYANNAYAbgVAYA TIKHAYAzDVOECHELN",
     "AYA PROSTAYAbmSVETLAYAbmNEPOSTOYANNAYAbmKLYUCHEVAYAqLOZHITIEy S ZAPYATOYzZAKRYTOEzS KRYZHE",
     "MpKRYZHpROGpFITApKOBYLApZMEYTSApSTATYAv S ZAPYATOYyKRYZHEMyZAPYATOY I KRYZHEMyKRYZHEM I ZA",
     "PYATOYwZAKRYTAYAbf S ZAPYATOYwS ROGOMyDVUMYA ZAPYATYMIyZAPYATOY I PODCHASHIEMpPOLKULIZMYpS",
     "TATYA NEPOSTOYANNAYArRELA PROSTAYAwMRACHNOTIKHAYAwKRYZHEVAYAwPOLUPOVODNAYAyVODNAYAwNEPOSTO",
     "YANNAYAwKLYUCHEPOVODNAYAbdNEPOSTOYANNAYAwTIKHAYA PUTNAYAwDVOECHELNAYAbfOKRYZHEVAYAbgPOVODN",
     "AYAbfAYA KLYUCHEVAYAbfOPOVODNAYA KLYUCHEVAYAwGROMNAYA WITH SINGLE ZAPYATAYAbaOPOVODNAYA WI",
     "TH SINGLE ZAPYATAYAbaNAYAbaOPOVODNAYAbk WITH DOUBLE ZAPYATAYAbbKRYZHEVAYAbl POVODNAYApMECH",
     "IKv POVODNYwKLYUCHEVOYbdPOVODNYbdNEPOSTOYANNYpSTRELA TRYASOGLASNAYAbcPOVODNAYAbcSTRELNAYAp",
     "OSOKAu SVETLAYAvTRESVETLAYAvKRYUKOVAYA SVETLAYAwLYUCHEVAYA SVETLAYAbhNEPOSTOYANNAYApSTRELA",
     " KRYUKOVAYAbg POVODNAYAbhGROMNAYA WITH SINGLE ZAPYATAYAblOPOVODNAYA WITH SINGLE ZAPYATAYAb",
     "lNAYAblOPOVODNAYAbv WITH DOUBLE ZAPYATAYAbmKRYZHEVAYAbw POVODNAYAbhTRYASKApKUFISMApOBLAKOp",
     "DUDApNEMKApPAUK"]),
   (0x1d000, ["aBYZANTINE MUSICAL SYMBOL PSILIzDASEIAzPERISPOMENIzOXEIA EKFONITIKONbfDIPLIzVAREI",
     "A EKFONITIKONbgDIPLIzKATHISTIzSYRMATIKIzPARAKLITIKIzYPOKRISISbi DIPLIzKREMASTIzAPESO EKFON",
     "ITIKONzEXO EKFONITIKONzTELEIAzKENTIMATAzAPOSTROFOSbj DIPLIzSYNEVMAzTHITAzOLIGON ARCHAIONzG",
     "ORGON ARCHAIONzPSILONzCHAMILONzVATHYzISON ARCHAIONzKENTIMA ARCHAIONbgTA ARCHAIONzSAXIMATAz",
     "PARICHONzSTAVROS APODEXIAzOXEIAI ARCHAIONzVAREIAI ARCHAIONzAPODERMA ARCHAIONbcTHEMAzKLASMA",
     "zREVMAzPIASMA ARCHAIONzTINAGMAzANATRICHISMAzSEISMAbaYNAGMA ARCHAIONbhMETA STAVROUzOYRANISM",
     "A ARCHAIONzTHEMAzLEMOIzDYOzTRIAbaESSERAzKRATIMATAzAPESO EXO NEOzFTHORA ARCHAIONzIMIFTHORAz",
     "TROMIKON ARCHAIONzKATAVA TROMIKONzPELASTONbaSIFISTONzKONTEVMAzCHOREVMA ARCHAIONzRAPISMAzPA",
     "RAKALESMA ARCHAIONbeLITIKI ARCHAIONzICHADINzNANAzPETASMAzKONTEVMA ALLOzTROMIKON ALLOzSTRAG",
     "GISMATAzGRONTHISMATAzISON NEOzOLIGON NEObaXEIA NEOzPETASTIzKOUFISMAzPETASTOKOUFISMAzKRATIM",
     "OKOUFISMAzPELASTON NEOzKENTIMATA NEO ANObg NEO ANOzYPSILIzAPOSTROFOS NEObiI SYNDESMOS NEOz",
     "YPORROIzKRATIMOYPORROONzELAFRONzCHAMILIzMIKRON ISONzVAREIA NEOzPIASMA NEObaSIFISTON NEOzOM",
     "ALONzANTIKENOMAzLYGISMAzPARAKLITIKI NEObeALESMA NEOzETERON PARAKALESMAzKYLISMAzANTIKENOKYL",
     "ISMAzTROMIKON NEOzEKSTREPTONzSYNAGMA NEObbRMAzCHOREVMA NEOzEPEGERMAzSEISMA NEOzXIRON KLASM",
     "AzTROMIKOPSIFISTONzPSIFISTOLYGISMAzTROMIKOLYGISMAbgPARAKALESMAzPSIFISTOPARAKALESMAzTROMIKO",
     "SYNAGMAzPSIFISTOSYNAGMAzGORGOSYNTHETONzARGOSYNTHETONzETERON ARGOSYNTHETONzOYRANISMA NEOzTH",
     "EMATISMOS ESObmXObe APLOUNbcS KAI APOTHESzKATAVASMAzENDOFONONzYFEN KATObeANOzSTAVROSzKLASM",
     "A ANOzDIPLI ARCHAIONzKRATIMA ARCHAIONbiLLObhNEOzAPODERMA NEObbLIzDIPLIzTRIPLIbaETRAPLIzKOR",
     "ONISzLEIMMA ENOS CHRONOUbgDYO CHRONONbgTRION CHRONONbhESSARON CHRONONbgIMISEOS CHRONOUzGOR",
     "GON NEO ANObgPARESTIGMENON ARISTERAbuDEXIAzDIGORGONbh PARESTIGMENON ARISTERA KATOcfANObwDE",
     "XIAzTRIGORGONzARGONzIMIDIARGONzDIARGONzAGOGI POLI ARGIbfARGOTERIbiIbfMETRIAbhSIbfGORGIbjOT",
     "ERIbfPOLI GORGIzMARTYRIA PROTOS ICHOSbiALLI PROTOS ICHOSbiDEYTEROS ICHOSbiALLI DEYTEROS IC",
     "HOSbiTRITOS ICHOSblFONIASbjETARTOS ICHOSbrLEGETOS ICHOSbiLEGETOS ICHOSbiPLAGIOS ICHOSzISAK",
     "IA TELOUS ICHIMATOSzAPOSTROFOI TELOUS ICHIMATOSzFANEROSIS TETRAFONIASbjMONOFONIASbjDIFONIA",
     "SzMARTYRIA VARYS ICHOSbiPROTOVARYS ICHOSbjLAGIOS TETARTOS ICHOSzGORTHMIKON N APLOUNbmDIPLO",
     "UNzENARXIS KAI FTHORA VOUzIMIFONONbdTHORONzFTHORA ARCHAION DEYTEROU ICHOUbgDIATONIKI PAbqN",
     "ANAbgNAOS ICHOSbgDIATONIKI DIbgSKLIRON DIATONON DIbgDIATONIKI KEbqZObqNI KATObtANObgMALAKO",
     "N CHROMA DIFONIASbvMONOFONIASbaHTORA SKLIRON CHROMA VASISbaTHORA SKLIRON CHROMA SYNAFIbgNE",
     "NANOzCHROA ZYGOSbfKLITONbfSPATHIzFTHORA I YFESIS TETARTIMORIONbgENARMONIOS ANTIFONIAzYFESI",
     "S TRITIMORIONzDIESIS TRITIMORIONbhETARTIMORIONbgAPLI DYO DODEKATAbgMONOGRAMMOS TESSERA DOD",
     "EKATAbgDIGRAMMOS EX DODEKATAbgTRIGRAMMOS OKTO DODEKATAzYFESIS APLI DYO DODEKATAbgMONOGRAMM",
     "OS TESSERA DODEKATAbgDIGRAMMOS EX DODEKATAbgTRIGRAMMOS OKTO DODEKATAzGENIKI DIESISbgYFESIS",
     "zDIASTOLI APLI MIKRIboEGALIbiDIPLIbiTHESEOSzSIMANSIS THESEOSbp DISIMOUbqTRISIMOUbrETRASIMO",
     "UbiARSEOSbo DISIMOUbpTRISIMOUbqETRASIMOUzDIGRAMMA GGbbFTOGGOS OUzSTIGMAzARKTIKO PAbhVOUbhG",
     "AbhDIbhKEbhZObhNIzKENTIMATA NEO MESObg NEO MESObgTA NEO KATObg NEO KATObaLASMA KATOzGORGON",
     " NEO KATO"]),
   (0x1d100, ["aMUSICAL SYMBOL SINGLE BARLINEpDOUBLE BARLINEpFINAL BARLINEpREVERSE FINAL BARLINE",
     "pDASHED BARLINEpSHORT BARLINEpLEFT REPEAT SIGNpRIGHT REPEAT SIGNqEPEAT DOTSpDAL SEGNOr CAP",
     "OpSEGNOpCODApREPEATED FIGURE-1bf2bf3pFERMATAw BELOWpBREATH MARKpCAESURApBRACEtKETpONE-LINE",
     " STAFFpTWO-LINE STAFFqHREE-LINE STAFFpFOUR-LINE STAFFqIVE-LINE STAFFpSIX-LINE STAFFtSTRING",
     " FRETBOARDpFOUR-STRING FRETBOARDpG CLEFv OTTAVA ALTAbdBASSApC CLEFpF CLEFv OTTAVA ALTAbdBA",
     "SSApDRUM CLEF-1z2"]),
   (0x1d129, ["aMUSICAL SYMBOL MULTIPLE MEASURE RESTpDOUBLE SHARPwFLATpFLAT UPuDOWNpNATURAL UPxD",
     "OWNpSHARP UPvDOWNpQUARTER TONE SHARPbcFLATpCOMMON TIMEqUT TIMEpOTTAVA ALTAwBASSApQUINDICES",
     "IMA ALTAbcBASSApMULTI RESTpWHOLE RESTpHALF RESTpQUARTER RESTpEIGHTH RESTpSIXTEENTH RESTpTH",
     "IRTY-SECOND RESTpSIXTY-FOURTH RESTpONE HUNDRED TWENTY-EIGHTH RESTpX NOTEHEADpPLUS NOTEHEAD",
     "pCIRCLE X NOTEHEADpSQUARE NOTEHEAD WHITEbfBLACKpTRIANGLE NOTEHEAD UP WHITEbkBLACKbhLEFT WH",
     "ITEbmBLACKbhRIGHT WHITEbnBLACKbhDOWN WHITEbmBLACKbhUP RIGHT WHITEbqBLACKpMOON NOTEHEAD WHI",
     "TEbdBLACKpTRIANGLE-ROUND NOTEHEAD DOWN WHITEbsBLACKpPARENTHESIS NOTEHEADpVOID NOTEHEADpNOT",
     "EHEAD BLACKqULL NOTEHEADpCLUSTER NOTEHEAD WHITEbgBLACKpBREVEpWHOLE NOTEpHALF NOTEpQUARTER ",
     "NOTEpEIGHTH NOTEpSIXTEENTH NOTEpTHIRTY-SECOND NOTEpSIXTY-FOURTH NOTEpONE HUNDRED TWENTY-EI",
     "GHTH NOTEpCOMBINING STEMbaPRECHGESANG STEMzTREMOLO-1bh2bh3pFINGERED TREMOLO-1bg2bg3pCOMBIN",
     "ING AUGMENTATION DOTzFLAG-1be2be3be4be5pBEGIN BEAMpEND BEAMpBEGIN TIEpEND TIEpBEGIN SLURpE",
     "ND SLURpBEGIN PHRASEpEND PHRASEpCOMBINING ACCENTzSTACCATOzTENUTOzSTACCATISSIMOzMARCATObg-S",
     "TACCATOzACCENT-STACCATOzLOUREpARPEGGIATO UPbaDOWNpCOMBINING DOITzRIPzFLIPzSMEARzBENDzDOUBL",
     "E TONGUEzTRIPLE TONGUEpRINFORZANDOpSUBITOpZpPIANOpMEZZOpFORTEpCRESCENDOpDECRESCENDOpGRACE ",
     "NOTE SLASHbaNO SLASHpTRqURNpINVERTED TURNpTURN SLASHuUPpORNAMENT STROKE-1bf2bf3bf4bf5bf6bf",
     "7bf8bf9bf10bg1pHAUPTSTIMMEpNEBENSTIMMEpEND OF STIMMEpDEGREE SLASHpCOMBINING DOWN BOWzUP BO",
     "WzHARMONICzSNAP PIZZICATOpPEDAL MARKvUP MARKpHALF PEDAL MARKpGLISSANDO UPzDOWNpWITH FINGER",
     "NAILSpDAMPt ALLpMAXIMApLONGApBREVISpSEMIBREVIS WHITEbaBLACKpMINIMAv BLACKpSEMIMINIMA WHITE",
     "baBLACKpFUSA WHITEuBLACKpLONGA PERFECTA RESTvIMPERFECTA RESTpBREVIS RESTpSEMIBREVIS RESTpM",
     "INIMA RESTpSEMIMINIMA RESTpTEMPUS PERFECTUM CUM PROLATIONE PERFECTAbvIMPERFECTAbvPERFECTA ",
     "DIMINUTION-1wIMPERFECTUM CUM PROLATIONE PERFECTAbxIMPERFECTAch DIMINUTION-1ct2ct3pCROIXpGR",
     "EGORIAN C CLEFzF CLEFpSQUARE BpVIRGApPODATUSpCLIVISpSCANDICUSpCLIMACUSpTORCULUSpPORRECTUSy",
     " FLEXUSpSCANDICUS FLEXUSpTORCULUS RESUPINUSpPES SUBPUNCTISpKIEVAN C CLEFwEND OF PIECEwFINA",
     "L NOTEwRECITATIVE MARKwWHOLE NOTEwHALF NOTEwQUARTER NOTE STEM DOWNboUPwEIGHTH NOTE STEM DO",
     "WNbnUPwFLAT SIGNpSORIpKORON"]),
   (0x1d200, ["aGREEK VOCAL NOTATION SYMBOL-1bc2bc3bc4bc5bc6bc7bc8bc9bc10bd1bd2bd3bd4bd5bd6bd7bd",
     "8bd9bc20bd1bd2bd3bd4bc50bd1bd2bd3bd4gINSTRUMENTAL NOTATION SYMBOL-1bj2bj4bj5bj7bj8bj11bk2b",
     "k3bk4bk7bk8bk9bj23bk4bk5bk6bk7bk9bj30bk2bk6bk7bk8bk9bj40bk2bk3bk5bk7bk8bk9bj50bk1bk2bk3bk4",
     "aCOMBINING GREEK MUSICAL TRISEMEzETRASEMEyPENTASEMEaGREEK MUSICAL LEIMMA"]),
   (0x1d2e0, ["aMAYAN NUMERAL ZEROoONEoTWOpHREEoFOURpIVEoSIXpEVENoEIGHToNINEoTENoELEVENoTWELVEpH",
     "IRTEENoFOURTEENpIFTEENoSIXTEENpEVENTEENoEIGHTEENoNINETEEN"]),
   (0x1d300, ["aMONOGRAM FOR EARTHaDIGRAM FOR HEAVENLY EARTHmUMAN EARTHlEARTHLY HEAVENuUMANpHaTE",
     "TRAGRAM FOR CENTREoFULL CIRCLEoMIREDoBARRIERoKEEPING SMALLoCONTRARIETYoASCENToOPPOSITIONoB",
     "RANCHING OUToDEFECTIVENESS OR DISTORTIONpIVERGENCEoYOUTHFULNESSoINCREASEoPENETRATIONoREACH",
     "oCONTACToHOLDING BACKoWAITINGoFOLLOWINGoADVANCEoRELEASEqSISTANCEoEASEoJOYoCONTENTIONoENDEA",
     "VOURoDUTIESoCHANGEoDECISIVENESSoBOLD RESOLUTIONoPACKINGoLEGIONoCLOSENESSoKINSHIPoGATHERING",
     "oSTRENGTHoPURITYoFULLNESSoRESIDENCEoLAW OR MODELoRESPONSEoGOING TO MEEToENCOUNTERSoSTOVEoG",
     "REATNESSoENLARGEMENToPATTERNoRITUALoFLIGHToVASTNESS OR WASTINGoCONSTANCYoMEASUREoETERNITYo",
     "UNITYoDIMINISHMENToCLOSED MOUTHoGUARDEDNESSpATHERING INoMASSINGoACCUMULATIONoEMBELLISHMENT",
     "oDOUBToWATCHoSINKINGoINNERoDEPARTUREpARKENINGpIMMINGoEXHAUSTIONoSEVERANCEpTOPPAGEoHARDNESS",
     "oCOMPLETIONpLOSUREoFAILUREoAGGRAVATIONoCOMPLIANCEoON THE VERGEoDIFFICULTIESoLABOURINGoFOST",
     "ERING"]),
   (0x1d360, ["aCOUNTING ROD UNIT DIGIT ONEyTWOzHREEyFOURzIVEySIXzEVENyEIGHTyNINEnTENS DIGIT ONE",
     "yTWOzHREEyFOURzIVEySIXzEVENyEIGHTyNINEaIDEOGRAPHIC TALLY MARK ONExTWOyHREExFOURyIVEaTALLY ",
     "MARK ONElFIVE"]),
   (0x1d400, ["aMATHEMATICAL BOLD CAPITAL AbaBbaCbaDbaEbaFbaGbaHbaIbaJbaKbaLbaMbaNbaObaPbaQbaRba",
     "SbaTbaUbaVbaWbaXbaYbaZsSMALL AyByCyDyEyFyGyHyIyJyKyLyMyNyOyPyQyRySyTyUyVyWyXyYyZnITALIC CA",
     "PITAL AbcBbcCbcDbcEbcFbcGbcHbcIbcJbcKbcLbcMbcNbcObcPbcQbcRbcSbcTbcUbcVbcWbcXbcYbcZuSMALL A",
     "baBbaCbaDbaEbaFbaG"]),
   (0x1d456, ["aMATHEMATICAL ITALIC SMALL IbaJbaKbaLbaMbaNbaObaPbaQbaRbaSbaTbaUbaVbaWbaXbaYbaZnB",
     "OLD ITALIC CAPITAL AbhBbhCbhDbhEbhFbhGbhHbhIbhJbhKbhLbhMbhNbhObhPbhQbhRbhSbhTbhUbhVbhWbhXb",
     "hYbhZzSMALL AbfBbfCbfDbfEbfFbfGbfHbfIbfJbfKbfLbfMbfNbfObfPbfQbfRbfSbfTbfUbfVbfWbfXbfYbfZnS",
     "CRIPT CAPITAL A"]),
   (0x1d49e, ["aMATHEMATICAL SCRIPT CAPITAL CbcD"]),
   (0x1d4a2, ["aMATHEMATICAL SCRIPT CAPITAL G"]),
   (0x1d4a5, ["aMATHEMATICAL SCRIPT CAPITAL JbcK"]),
   (0x1d4a9, ["aMATHEMATICAL SCRIPT CAPITAL NbcObcPbcQ"]),
   (0x1d4ae, ["aMATHEMATICAL SCRIPT CAPITAL SbcTbcUbcVbcWbcXbcYbcZuSMALL AbaBbaCbaD"]),
   (0x1d4bb, ["aMATHEMATICAL SCRIPT SMALL F"]),
   (0x1d4bd, ["aMATHEMATICAL SCRIPT SMALL HbaIbaJbaKbaLbaMbaN"]),
   (0x1d4c5, ["aMATHEMATICAL SCRIPT SMALL PbaQbaRbaSbaTbaUbaVbaWbaXbaYbaZnBOLD SCRIPT CAPITAL Ab",
     "hBbhCbhDbhEbhFbhGbhHbhIbhJbhKbhLbhMbhNbhObhPbhQbhRbhSbhTbhUbhVbhWbhXbhYbhZzSMALL AbfBbfCbf",
     "DbfEbfFbfGbfHbfIbfJbfKbfLbfMbfNbfObfPbfQbfRbfSbfTbfUbfVbfWbfXbfYbfZnFRAKTUR CAPITAL AbdB"]),
   (0x1d507, ["aMATHEMATICAL FRAKTUR CAPITAL DbdEbdFbdG"]),
   (0x1d50d, ["aMATHEMATICAL FRAKTUR CAPITAL JbdKbdLbdMbdNbdObdPbdQ"]),
   (0x1d516, ["aMATHEMATICAL FRAKTUR CAPITAL SbdTbdUbdVbdWbdXbdY"]),
   (0x1d51e, ["aMATHEMATICAL FRAKTUR SMALL AbbBbbCbbDbbEbbFbbGbbHbbIbbJbbKbbLbbMbbNbbObbPbbQbbRb",
     "bSbbTbbUbbVbbWbbXbbYbbZnDOUBLE-STRUCK CAPITAL AbjB"]),
   (0x1d53b, ["aMATHEMATICAL DOUBLE-STRUCK CAPITAL DbjEbjFbjG"]),
   (0x1d540, ["aMATHEMATICAL DOUBLE-STRUCK CAPITAL IbjJbjKbjLbjM"]),
   (0x1d546, ["aMATHEMATICAL DOUBLE-STRUCK CAPITAL O"]),
   (0x1d54a, ["aMATHEMATICAL DOUBLE-STRUCK CAPITAL SbjTbjUbjVbjWbjXbjY"]),
   (0x1d552, ["aMATHEMATICAL DOUBLE-STRUCK SMALL AbhBbhCbhDbhEbhFbhGbhHbhIbhJbhKbhLbhMbhNbhObhPb",
     "hQbhRbhSbhTbhUbhVbhWbhXbhYbhZnBOLD FRAKTUR CAPITAL AbiBbiCbiDbiEbiFbiGbiHbiIbiJbiKbiLbiMbi",
     "NbiObiPbiQbiRbiSbiTbiUbiVbiWbiXbiYbiZbaSMALL AbgBbgCbgDbgEbgFbgGbgHbgIbgJbgKbgLbgMbgNbgObg",
     "PbgQbgRbgSbgTbgUbgVbgWbgXbgYbgZnSANS-SERIF CAPITAL AbgBbgCbgDbgEbgFbgGbgHbgIbgJbgKbgLbgMbg",
     "NbgObgPbgQbgRbgSbgTbgUbgVbgWbgXbgYbgZySMALL AbeBbeCbeDbeEbeFbeGbeHbeIbeJbeKbeLbeMbeNbeObeP",
     "beQbeRbeSbeTbeUbeVbeWbeXbeYbeZyBOLD CAPITAL AblBblCblDblEblFblGblHblIblJblKblLblMblNblOblP",
     "blQblRblSblTblUblVblWblXblYblZbdSMALL AbjBbjCbjDbjEbjFbjGbjHbjIbjJbjKbjLbjMbjNbjObjPbjQbjR",
     "bjSbjTbjUbjVbjWbjXbjYbjZyITALIC CAPITAL AbnBbnCbnDbnEbnFbnGbnHbnIbnJbnKbnLbnMbnNbnObnPbnQb",
     "nRbnSbnTbnUbnVbnWbnXbnYbnZbfSMALL AblBblCblDblEblFblGblHblIblJblKblLblMblNblOblPblQblRblSb",
     "lTblUblVblWblXblYblZyBOLD ITALIC CAPITAL AbsBbsCbsDbsEbsFbsGbsHbsIbsJbsKbsLbsMbsNbsObsPbsQ",
     "bsRbsSbsTbsUbsVbsWbsXbsYbsZbkSMALL AbqBbqCbqDbqEbqFbqGbqHbqIbqJbqKbqLbqMbqNbqObqPbqQbqRbqS",
     "bqTbqUbqVbqWbqXbqYbqZnMONOSPACE CAPITAL AbfBbfCbfDbfEbfFbfGbfHbfIbfJbfKbfLbfMbfNbfObfPbfQb",
     "fRbfSbfTbfUbfVbfWbfXbfYbfZxSMALL AbdBbdCbdDbdEbdFbdGbdHbdIbdJbdKbdLbdMbdNbdObdPbdQbdRbdSbd",
     "TbdUbdVbdWbdXbdYbdZnITALIC SMALL DOTLESS IbiJ"]),
   (0x1d6a8, ["aMATHEMATICAL BOLD CAPITAL ALPHAbaBETAbaGAMMAbaDELTAbaEPSILONbaZETAbaETAbaTHETAba",
     "IOTAbaKAPPAbaLAMDAbaMUbaNUbaXIbaOMICRONbaPIbaRHObaTHETA SYMBOLbaSIGMAbaTAUbaUPSILONbaPHIba",
     "CHIbaPSIbaOMEGAsNABLAsSMALL ALPHAyBETAyGAMMAyDELTAyEPSILONyZETAyETAyTHETAyIOTAyKAPPAyLAMDA",
     "yMUyNUyXIyOMICRONyPIyRHOyFINAL SIGMAySIGMAyTAUyUPSILONyPHIyCHIyPSIyOMEGAsPARTIAL DIFFERENT",
     "IALsEPSILON SYMBOLsTHETA SYMBOLsKAPPA SYMBOLsPHI SYMBOLsRHO SYMBOLsPI SYMBOLnITALIC CAPITA",
     "L ALPHAbcBETAbcGAMMAbcDELTAbcEPSILONbcZETAbcETAbcTHETAbcIOTAbcKAPPAbcLAMDAbcMUbcNUbcXIbcOM",
     "ICRONbcPIbcRHObcTHETA SYMBOLbcSIGMAbcTAUbcUPSILONbcPHIbcCHIbcPSIbcOMEGAuNABLAuSMALL ALPHAb",
     "aBETAbaGAMMAbaDELTAbaEPSILONbaZETAbaETAbaTHETAbaIOTAbaKAPPAbaLAMDAbaMUbaNUbaXIbaOMICRONbaP",
     "IbaRHObaFINAL SIGMAbaSIGMAbaTAUbaUPSILONbaPHIbaCHIbaPSIbaOMEGAuPARTIAL DIFFERENTIALuEPSILO",
     "N SYMBOLuTHETA SYMBOLuKAPPA SYMBOLuPHI SYMBOLuRHO SYMBOLuPI SYMBOLnBOLD ITALIC CAPITAL ALP",
     "HAbhBETAbhGAMMAbhDELTAbhEPSILONbhZETAbhETAbhTHETAbhIOTAbhKAPPAbhLAMDAbhMUbhNUbhXIbhOMICRON",
     "bhPIbhRHObhTHETA SYMBOLbhSIGMAbhTAUbhUPSILONbhPHIbhCHIbhPSIbhOMEGAzNABLAzSMALL ALPHAbfBETA",
     "bfGAMMAbfDELTAbfEPSILONbfZETAbfETAbfTHETAbfIOTAbfKAPPAbfLAMDAbfMUbfNUbfXIbfOMICRONbfPIbfRH",
     "ObfFINAL SIGMAbfSIGMAbfTAUbfUPSILONbfPHIbfCHIbfPSIbfOMEGAzPARTIAL DIFFERENTIALzEPSILON SYM",
     "BOLzTHETA SYMBOLzKAPPA SYMBOLzPHI SYMBOLzRHO SYMBOLzPI SYMBOLnSANS-SERIF BOLD CAPITAL ALPH",
     "AblBETAblGAMMAblDELTAblEPSILONblZETAblETAblTHETAblIOTAblKAPPAblLAMDAblMUblNUblXIblOMICRONb",
     "lPIblRHOblTHETA SYMBOLblSIGMAblTAUblUPSILONblPHIblCHIblPSIblOMEGAbdNABLAbdSMALL ALPHAbjBET",
     "AbjGAMMAbjDELTAbjEPSILONbjZETAbjETAbjTHETAbjIOTAbjKAPPAbjLAMDAbjMUbjNUbjXIbjOMICRONbjPIbjR",
     "HObjFINAL SIGMAbjSIGMAbjTAUbjUPSILONbjPHIbjCHIbjPSIbjOMEGAbdPARTIAL DIFFERENTIALbdEPSILON ",
     "SYMBOLbdTHETA SYMBOLbdKAPPA SYMBOLbdPHI SYMBOLbdRHO SYMBOLbdPI SYMBOLbdITALIC CAPITAL ALPH",
     "AbsBETAbsGAMMAbsDELTAbsEPSILONbsZETAbsETAbsTHETAbsIOTAbsKAPPAbsLAMDAbsMUbsNUbsXIbsOMICRONb",
     "sPIbsRHObsTHETA SYMBOLbsSIGMAbsTAUbsUPSILONbsPHIbsCHIbsPSIbsOMEGAbkNABLAbkSMALL ALPHAbqBET",
     "AbqGAMMAbqDELTAbqEPSILONbqZETAbqETAbqTHETAbqIOTAbqKAPPAbqLAMDAbqMUbqNUbqXIbqOMICRONbqPIbqR",
     "HObqFINAL SIGMAbqSIGMAbqTAUbqUPSILONbqPHIbqCHIbqPSIbqOMEGAbkPARTIAL DIFFERENTIALbkEPSILON ",
     "SYMBOLbkTHETA SYMBOLbkKAPPA SYMBOLbkPHI SYMBOLbkRHO SYMBOLbkPI SYMBOLnBOLD CAPITAL DIGAMMA",
     "sSMALL DIGAMMA"]),
   (0x1d7ce, ["aMATHEMATICAL BOLD DIGIT ZEROyONEyTWOzHREEyFOURzIVEySIXzEVENyEIGHTyNINEnDOUBLE-ST",
     "RUCK DIGIT ZERObhONEbhTWObiHREEbhFOURbiIVEbhSIXbiEVENbhEIGHTbhNINEnSANS-SERIF DIGIT ZERObe",
     "ONEbeTWObfHREEbeFOURbfIVEbeSIXbfEVENbeEIGHTbeNINEyBOLD DIGIT ZERObjONEbjTWObkHREEbjFOURbkI",
     "VEbjSIXbkEVENbjEIGHTbjNINEnMONOSPACE DIGIT ZERObdONEbdTWObeHREEbdFOURbeIVEbdSIXbeEVENbdEIG",
     "HTbdNINEaSIGNWRITING HAND-FIST INDEXrCIRCLE INDEXsUP INDEXrOVAL INDEXrHINGE INDEXrANGLE IN",
     "DEXrFIST INDEX BENTrCIRCLE INDEX BENTrFIST THUMB UNDER INDEX BENTwINDEX RAISED KNUCKLEbcCU",
     "PPEDbcHINGEDbi LOWrCIRCLE INDEX HINGErFIST INDEX MIDDLErCIRCLE INDEX MIDDLErFIST INDEX MID",
     "DLE BENTbjRAISED KNUCKLESbjHINGEDbcUP MIDDLE HINGEDbcHINGED MIDDLE UPbcMIDDLE CONJOINEDbs ",
     "INDEX BENTbtMIDDLE BENTbtCUPPEDbtHINGEDbkROSSEDrCIRCLE INDEX MIDDLE CROSSEDrFIST MIDDLE BE",
     "NT OVER INDEXwINDEX BENT OVER MIDDLEbcMIDDLE THUMBrCIRCLE INDEX MIDDLE THUMBrFIST INDEX MI",
     "DDLE STRAIGHT THUMB BENTbjBENT THUMB STRAIGHTbjTHUMB BENTbjHINGED SPREAD THUMB SIDEbcUP MI",
     "DDLE HINGED THUMB SIDEbzCONJOINEDbcHINGED MIDDLE UP THUMB SIDEbcMIDDLE UP SPREAD THUMB FOR",
     "WARDbjTHUMB CUPPEDbqIRCLEDbpHOOKEDbqINGEDwTHUMB BETWEEN INDEX MIDDLE STRAIGHTwINDEX MIDDLE",
     " CONJOINED THUMB SIDEcd CONJOINEDceBENTwMIDDLE THUMB HOOKED INDEX UPwINDEX THUMB HOOKED MI",
     "DDLE UPbcMIDDLE CONJOINED HINGED THUMB SIDEbkROSSED THUMB SIDEbkONJOINED THUMB FORWARDbtCU",
     "PPED THUMB FORWARDwMIDDLE THUMB CUPPED INDEX UPwINDEX THUMB CUPPED MIDDLE UPwMIDDLE THUMB ",
     "CIRCLED INDEX UPbxHINGEDwINDEX THUMB ANGLED OUT MIDDLE UPbpIN MIDDLE UPbiCIRCLED MIDDLE UP",
     "bcMIDDLE THUMB CONJOINED HINGEDbpANGLED OUTbuDwMIDDLE THUMB ANGLED OUT INDEX UPcaCROSSEDbq",
     "INDEX UPwINDEX THUMB HOOKED MIDDLE HINGEDsLAT FOUR FINGERSbi BENTbjHINGEDbjCONJOINEDbs SPL",
     "ITrCLAW FOUR FINGERS CONJOINEDrFIST FOUR FINGERS CONJOINED BENTrHINGE FOUR FINGERS CONJOIN",
     "EDrFLAT FIVE FINGERS SPREADwHEEL FIVE FINGERS SPREADwFIVE FINGERS SPREAD FOUR BENTwHEEL FI",
     "VE FINGERS SPREAD FOUR BENTwFIVE FINGERS SPREAD BENTwHEEL FIVE FINGERS SPREAD BENTwFIVE FI",
     "NGERS SPREAD THUMB FORWARDrCUP FIVE FINGERS SPREADbo OPENrHINGE FIVE FINGERS SPREAD OPENrO",
     "VAL FIVE FINGERS SPREADrFLAT FIVE FINGERS SPREAD HINGEDbw THUMB SIDEbxNO THUMBuTv BETWEEN ",
     "PALM FACINGSwHEELwTHUMB SIDEwHEEL THUMB SIDEwTHUMB BENTbcFORWARDwSPLIT INDEX THUMB SIDEbcC",
     "ENTREbi THUMB SIDEbt BENTbcLITTLErCLAWv THUMB SIDEwNO THUMBwTHUMB FORWARDrHOOK CURLICUEuKr",
     "CUP OPENtPu OPEN THUMB SIDEvTHUMB SIDEvOPEN NO THUMBvNO THUMBvOPEN THUMB FORWARDvTHUMB FOR",
     "WARDtRLICUE OPENyEsIRCLErOVALv THUMB SIDEwNO THUMBwTHUMB FORWARDrHINGE OPENbb THUMB FORWAR",
     "DvEw SMALLxOPEN THUMB SIDExTHUMB SIDExOPEN NO THUMBxNO THUMBxTHUMB SIDE TOUCHING INDEXbdBE",
     "TWEEN MIDDLE RINGrANGLErFIST INDEX MIDDLE RINGrCIRCLE INDEX MIDDLE RINGrHINGE INDEX MIDDLE",
     " RINGrANGLE INDEX MIDDLE RINGrHINGE LITTLErFIST INDEX MIDDLE RING BENTboCONJOINEDrHINGE IN",
     "DEX MIDDLE RING CONJOINEDrFIST LITTLE DOWNbh RIPPLE STRAIGHTbpCURVEDbiOTHERS CIRCLEDbdUPwT",
     "HUMB UNDER LITTLE UPrCIRCLE LITTLE UPrOVAL LITTLE UPrANGLE LITTLE UPrFIST LITTLE RAISED KN",
     "UCKLEbdBENTbdTOUCHES THUMBbeHUMBrHINGE LITTLE THUMBrFIST LITTLE INDEX THUMBrHINGE LITTLE I",
     "NDEX THUMBrANGLE LITTLE INDEX THUMB INDEX THUMB OUTcaBrFIST LITTLE INDEXrCIRCLE LITTLE IND",
     "EXrHINGE LITTLE INDEXrANGLE LITTLE INDEXrFIST INDEX MIDDLE LITTLErCIRCLE INDEX MIDDLE LITT",
     "LErHINGE INDEX MIDDLE LITTLExRINGrANGLE INDEX MIDDLE LITTLErFIST INDEX MIDDLE CROSS LITTLE",
     "rCIRCLE INDEX MIDDLE CROSS LITTLErFIST RING DOWNrHINGE RING DOWN INDEX THUMB HOOK MIDDLErA",
     "NGLE RING DOWN MIDDLE THUMB INDEX CROSSrFIST RING UPbbRAISED KNUCKLEbbLITTLErCIRCLE RING L",
     "ITTLErOVAL RING LITTLErANGLE RING LITTLErFIST RING MIDDLEbh CONJOINEDbiRAISED KNUCKLESbbIN",
     "DEXbbTHUMBrHOOK RING THUMBrFIST INDEX RING LITTLErCIRCLE INDEX RING LITTLEsURLICUE INDEX R",
     "ING LITTLE ONrHOOK INDEX RING LITTLE OUTboINboUNDERrCUP INDEX RING LITTLErHINGE INDEX RING",
     " LITTLErANGLE INDEX RING LITTLE OUTbnErFIST MIDDLE DOWNrHINGE MIDDLErFIST MIDDLE UPrCIRCLE",
     " MIDDLE UPrFIST MIDDLE RAISED KNUCKLEbdUP THUMB SIDErHOOK MIDDLE THUMBrFIST MIDDLE THUMB L",
     "ITTLEbdLITTLEbdRING LITTLErCIRCLE MIDDLE RING LITTLEsURLICUE MIDDLE RING LITTLE ONtP MIDDL",
     "E RING LITTLErHINGE MIDDLE RING LITTLErANGLE MIDDLE RING LITTLE OUTbqINboErCIRCLE MIDDLE R",
     "ING LITTLE BENTsLAW MIDDLE RING LITTLE CONJOINEDby SIDErHOOK MIDDLE RING LITTLE CONJOINED ",
     "OUTbzINbxDsINGE INDEX HINGEDrFIST INDEX THUMB SIDErHINGE INDEX THUMB SIDErFIST INDEX THUMB",
     " SIDE THUMB DIAGONALbtCONJOINEDbtBENTbnINDEX BENTbnBOTH BENTbnINDEX HINGEbiFORWARD INDEX S",
     "TRAIGHTbwBENTbiHOOKbiCURLICUEblVE THUMB INSIDErCLAW INDEX THUMB CURVE THUMB INSIDErFIST IN",
     "DEX THUMB CURVE THUMB UNDERbjIRCLErCUP INDEX THUMBbg OPENrHINGE INDEX THUMB OPENbjLARGEbhB",
     "bi SMALLrANGLE INDEX THUMB OUTbjINbhBrFIST THUMBbb HEELbcSIDE DIAGONALbhCONJOINEDbhBENTbcF",
     "ORWARDbcBETWEEN INDEX MIDDLEbkMIDDLE RINGbkRING LITTLEbcUNDER TWO FINGERSbcOVER TWO FINGER",
     "SbcUNDER THREE FINGERSbiFOUR FINGERSbcOVER FOUR RAISED KNUCKLESuTv HEELmTOUCH SINGLEsMULTI",
     "PLEsBETWEENmGRASP SINGLEsMULTIPLEsBETWEENmSTRIKE SINGLEtMULTIPLEtBETWEENmBRUSH SINGLEsMULT",
     "IPLEsBETWEENmRUB SINGLEqMULTIPLEqBETWEENmSURFACE SYMBOLSuBETWEENnQUEEZE LARGE SINGLEuSMALL",
     " SINGLEuLARGE MULTIPLEuSMALL MULTIPLEvEQUENTIALmFLICK LARGE SINGLEsSMALL SINGLEsLARGE MULT",
     "IPLEsSMALL MULTIPLEtEQUENTIALmSQUEEZE FLICK ALTERNATINGmMOVEMENT-HINGE UP DOWN LARGEbjSMAL",
     "LbeSEQUENTIALbbDOWN SEQUENTIALbbUP DOWN ALTERNATING LARGEbvSMALLbbSIDE TO SIDE SCISSORSvWA",
     "LLPLANE FINGER CONTACTvFLOORPLANE FINGER CONTACTvWALLPLANE SINGLE STRAIGHT SMALLbvMEDIUMbv",
     "LARGEcaSTbmWRIST FLEXbfDOUBLE STRAIGHTbmWRIST FLEXbmALTERNATINGbx WRIST FLEXbfCROSSbfTRIPL",
     "E STRAIGHT MOVEMENTbmWRIST FLEXbmALTERNATINGbx WRIST FLEXbfBEND SMALLbkMEDIUMbkLARGEbfCORN",
     "ER SMALLbmMEDIUMbmLARGEbmROTATIONbgHECK SMALLblMEDIUMblLARGEbfBOX SMALLbjMEDIUMbjLARGEbfZI",
     "GZAG SMALLbmMEDIUMbmLARGEbfPEAKS SMALLblMEDIUMblLARGEmTRAVEL-WALLPLANE ROTATION-WALLPLANE ",
     "SINGLEbwDOUBLEbwALTERNATINGbmFLOORPLANE SINGLEbxDOUBLEbxALTERNATINGbdSHAKINGbdARM SPIRAL S",
     "INGLEboDOUBLEboTRIPLEmMOVEMENT-DIAGONAL AWAY SMALLbjMEDIUMbjLARGEboSTbeTOWARDS SMALLbmMEDI",
     "UMbmLARGEbrSTbeBETWEEN AWAY SMALLbrMEDIUMbrLARGEbwSTbmTOWARDS SMALLbuMEDIUMbuLARGEbzSTvFLO",
     "ORPLANE SINGLE STRAIGHT SMALLbwMEDIUMbwLARGEcbSTbnWRIST FLEXbgDOUBLE STRAIGHTbnWRIST FLEXb",
     "nALTERNATINGby WRIST FLEXbgCROSSbgTRIPLE STRAIGHT MOVEMENTbnWRIST FLEXbnALTERNATING MOVEME",
     "NTbzWRIST FLEXbgBENDbgCORNER SMALLbnMEDIUMbnLARGEbhHECKbgBOX SMALLbkMEDIUMbkLARGEbgZIGZAG ",
     "SMALLbnMEDIUMbnLARGEbgPEAKS SMALLbmMEDIUMbmLARGEmTRAVEL-FLOORPLANE ROTATION-FLOORPLANE SIN",
     "GLEbyDOUBLEbyALTERNATINGbnWALLPLANE SINGLEbxDOUBLEbxALTERNATINGbeSHAKINGmMOVEMENT-WALLPLAN",
     "E CURVE QUARTER SMALLbtMEDIUMbtLARGEbySTblHALF-CIRCLE SMALLbxMEDIUMbxLARGEccSTblTHREE-QUAR",
     "TER CIRCLE SMALLcgMEDIUMbfHUMP SMALLbkMEDIUMbkLARGEbfLOOP SMALLbkMEDIUMbkLARGEbkSMALL DOUB",
     "LEbfWAVE CURVE DOUBLE SMALLbxMEDIUMbxLARGEbqTRIPLE SMALLbxMEDIUMbxLARGEbfCURVE THEN STRAIG",
     "HTbkD CROSS SMALLbsMEDIUMmROTATION-WALLPLANE SINGLEbfDOUBLEbfALTERNATEmMOVEMENT-WALLPLANE ",
     "SHAKINGbfCURVE HITTING FRONT WALLbfHUMP HITTING FRONT WALLbfLOOP HITTING FRONT WALLbfWAVE ",
     "HITTING FRONT WALLmROTATION-WALLPLANE SINGLE HITTING FRONT WALLbfDOUBLE HITTING FRONT WALL",
     "bfALTERNATING HITTING FRONT WALLmMOVEMENT-WALLPLANE CURVE HITTING CHESTbfHUMP HITTING CHES",
     "TbfLOOP HITTING CHESTbfWAVE HITTING CHESTmROTATION-WALLPLANE SINGLE HITTING CHESTbfDOUBLE ",
     "HITTING CHESTbfALTERNATING HITTING CHESTmMOVEMENT-WALLPLANE WAVE DIAGONAL PATH SMALLbyMEDI",
     "UMbyLARGEvFLOORPLANE CURVE HITTING CEILING SMALLccLARGEbgHUMP HITTING CEILING SMALL DOUBLE",
     "cbLARGE DOUBLEcbSMALL TRIPLEcbLARGE TRIPLEbgLOOP HITTING CEILING SMALL SINGLEcbLARGE SINGL",
     "EcbSMALL DOUBLEcbLARGE DOUBLEbgWAVE HITTING CEILING SMALLcbLARGEmROTATION-FLOORPLANE SINGL",
     "E HITTING CEILINGbgDOUBLE HITTING CEILINGbgALTERNATING HITTING CEILINGmMOVEMENT-FLOORPLANE",
     " CURVE HITTING FLOOR SMALLcaLARGEbgHUMP HITTING FLOOR SMALL DOUBLEbzLARGE DOUBLEbzTRIPLE S",
     "MALL TRIPLEcgLARGE TRIPLEbgLOOP HITTING FLOOR SMALL SINGLEbzLARGE SINGLEbzSMALL DOUBLEbzLA",
     "RGE DOUBLEbgWAVE HITTING FLOOR SMALLbzLARGEmROTATION-FLOORPLANE SINGLE HITTING FLOORbgDOUB",
     "LE HITTING FLOORbgALTERNATING HITTING FLOORmMOVEMENT-FLOORPLANE CURVE SMALLbmMEDIUMbmLARGE",
     "brSTbmCOMBINEDbgHUMP SMALLbgLOOP SMALLbgWAVE SNAKEbmMALLblLARGEmROTATION-FLOORPLANE SINGLE",
     "bgDOUBLEbgALTERNATINGmMOVEMENT-FLOORPLANE SHAKING PARALLELvWALLPLANE ARM CIRCLE SMALL SING",
     "LEbqMEDIUM SINGLEbqSMALL DOUBLEbqMEDIUM DOUBLEvFLOORPLANE ARM CIRCLE HITTING WALL SMALL SI",
     "NGLEceMEDIUM SINGLEceLARGE SINGLEceSMALL DOUBLEceMEDIUM DOUBLEceLARGE DOUBLEvWALLPLANE WRI",
     "ST CIRCLE FRONT SINGLEbyDOUBLEvFLOORPLANE WRIST CIRCLE HITTING WALL SINGLEcgDOUBLEvWALLPLA",
     "NE FINGER CIRCLES SINGLEbuDOUBLEvFLOORPLANE FINGER CIRCLES HITTING WALL SINGLEciDOUBLEmDYN",
     "AMIC ARROWHEAD SMALLbeLARGEuFASTuSLOWuTENSEuRELAXEDuSIMULTANEOUSbg ALTERNATINGuEVERY OTHER",
     " TIMEuGRADUALmHEADq RIMrMOVEMENT-WALLPLANE STRAIGHTbkTILTbaFLOORPLANE STRAIGHTbaWALLPLANE ",
     "CURVEbaFLOORPLANE CURVEz CIRCLEmFACE DIRECTION POSITION NOSE FORWARD TILTINGbpUP OR DOWNbz",
     " TILTINGmEYEBROWS STRAIGHT UPbeNEUTRALbeDOWNmDREAMY EYEBROWS NEUTRAL DOWNbcDOWN NEUTRALbcU",
     "P NEUTRALbcNEUTRAL UPmFOREHEAD NEUTRALvCONTACTvWRINKLEDmEYES OPENrSQUEEZEDrCLOSEDp BLINK S",
     "INGLEwMULTIPLEpS HALF OPENrWIDE OPENrHALF CLOSEDrWIDENING MOVEMENTp WINKpLASHES UPwDOWNwFL",
     "UTTERINGpGAZE-WALLPLANE STRAIGHTbm DOUBLEbnALTERNATINGuFLOORPLANE STRAIGHTbn DOUBLEboALTER",
     "NATINGuWALLPLANE CURVEDuFLOORPLANE CURVEDuWALLPLANE CIRCLINGmCHEEKS PUFFEDtNEUTRALtSUCKEDm",
     "TENSE CHEEKS HIGHzMIDDLEzLOWmEARSmNOSE NEUTRALrCONTACTrWRINKLESsIGGLESmAIR BLOWING OUTqSUC",
     "KING INqBLOW SMALL ROTATIONSqSUCK SMALL ROTATIONSmBREATH INHALEtEXHALEmMOUTH CLOSED NEUTRA",
     "LzFORWARDzCONTACTsSMILEx WRINKLEDyOPENsFROWNx WRINKLEDyOPENsOPEN CIRCLExFORWARDxWRINKLEDxO",
     "VALbb WRINKLEDbcYAWNxRECTANGLEbg WRINKLEDbhYAWNsKISSw FORWARDxWRINKLEDsTENSEx FORWARDySUCK",
     "EDmLIPS PRESSED TOGETHERp LOWER OVER UPPERqUPPER OVER LOWERmMOUTH CORNERSsWRINKLES SINGLEb",
     "bDOUBLEmTONGUE STICKING OUT FARtLICKING LIPStTIP BETWEEN LIPSxTOUCHING INSIDE MOUTHtINSIDE",
     " MOUTH RELAXEDtMOVES AGAINST CHEEKtCENTRE STICKING OUTbaINSIDE MOUTHnEETHr MOVEMENTsON TON",
     "GUEbb MOVEMENTvLIPSz MOVEMENTsBITE LIPSmMOVEMENT-WALLPLANE JAWvFLOORPLANE JAWmNECKmHAIRmEX",
     "CITEMENTmSHOULDER HIP SPINEzPOSITIONSmWALLPLANE SHOULDER HIP MOVEmFLOORPLANE SHOULDER HIP ",
     "MOVEmSHOULDER TILTING FROM WAISTmTORSO-WALLPLANE STRAIGHT STRETCHbcCURVED BENDsFLOORPLANE ",
     "TWISTINGmUPPER BODY TILTING FROM HIP JOINTSmLIMB COMBINATIONrLENGTH-1y2y3y4y5y6y7mFINGERmL",
     "OCATION-WALLPLANE SPACEvFLOORPLANE SPACEu HEIGHTvWIDTHvDEPTHvHEAD NECKvTORSOvLIMBS DIGITSm",
     "COMMAmFULL STOPmSEMICOLONmCOLONmPARENTHESIS"]),
   (0x1da9b, ["aSIGNWRITING FILL MODIFIER-2ba3ba4ba5ba6"]),
   (0x1daa1, ["aSIGNWRITING ROTATION MODIFIER-2be3be4be5be6be7be8be9be10bf1bf2bf3bf4bf5bf6"]),
   (0x1df00, ["aLATIN SMALL LETTER FENG DIGRAPH WITH TRILLtREVERSED SCRIPT GgLETTER SMALL CAPITA",
     "L TURNED GgSMALL LETTER REVERSED KgLETTER SMALL CAPITAL L WITH BELTgSMALL LETTER LEZH WITH",
     " RETROFLEX HOOKtTURNED Y WITH BELTtREVERSED ENGtTURNED R WITH LONG LEG AND RETROFLEX HOOKu",
     " WITH HOOK AND RETROFLEX HOOKgLETTER RETROFLEX CLICK WITH RETROFLEX HOOKgSMALL LETTER ESH ",
     "WITH DOUBLE BARbm AND CURLtTURNED T WITH CURLgLETTER INVERTED GLOTTAL STOP WITH CURLnSTRET",
     "CHED C WITH CURLoMALL CAPITAL TURNED KgSMALL LETTER L WITH FISHHOOKtDEZH DIGRAPH WITH PALA",
     "TAL HOOKtL WITH BELT AND PALATAL HOOKtENG WITH PALATAL HOOKtTURNED R WITH PALATAL HOOKtR W",
     "ITH FISHHOOK AND PALATAL HOOKtTESH DIGRAPH WITH PALATAL HOOKtEZH WITH PALATAL HOOKtDEZH DI",
     "GRAPH WITH RETROFLEX HOOKtI WITH STROKE AND RETROFLEX HOOKtO WITH RETROFLEX HOOKtTESH DIGR",
     "APH WITH RETROFLEX HOOKtC WITH RETROFLEX HOOKtS WITH CURL"]),
   (0x1e000, ["aCOMBINING GLAGOLITIC LETTER AZUbcBUKYbcVEDEbcGLAGOLIbcDOBRObcYESTUbcZHIVETE"]),
   (0x1e008, ["aCOMBINING GLAGOLITIC LETTER ZEMLJAbcIZHEbdNITIAL IZHEbcIbcDJERVIbcKAKObcLJUDIJEb",
     "cMYSLITEbcNASHIbcONUbcPOKOJIbcRITSIbcSLOVObcTVRIDObcUKUbcFRITUbcHERU"]),
   (0x1e01b, ["aCOMBINING GLAGOLITIC LETTER SHTAbcTSIbcCHRIVIbcSHAbcYERUbfIbdATI"]),
   (0x1e023, ["aCOMBINING GLAGOLITIC LETTER YUbcSMALL YUS"]),
   (0x1e026, ["aCOMBINING GLAGOLITIC LETTER YObcIOTATED SMALL YUSbcBIG YUSbcIOTATED BIG YUSbcFIT",
     "A"]),
   (0x1e100, ["aNYIAKENG PUACHUE HMONG LETTER MAbeTSAbeNTAbeTAbeHAbeNAbeXAbeNKAbeCAbeLAbeSAbeZAb",
     "eNCAbfTSAbeKAbeDAbeNYAbfRAbeVAbeNTXAbeTXAbeFAbeRAbeQAbeYAbeNQAbePAbeXYAbeNPAbeDLAbeNPLAbeH",
     "AHbeMLAbePLAbeGAbeRRAbeAbfAbeIbeUbeObfObeEbfEbeW"]),
   (0x1e130, ["aNYIAKENG PUACHUE HMONG TONE-BbcMbcJbcVbcSbcGbcDxSIGN FOR PERSONbgTHINGbgLOCATION",
     "bgANIMALbgINVERTEBRATEbcXW XWyYLLABLE LENGTHENER"]),
   (0x1e140, ["aNYIAKENG PUACHUE HMONG DIGIT ZERObdONEbdTWObeHREEbdFOURbeIVEbdSIXbeEVENbdEIGHTbd",
     "NINE"]),
   (0x1e14e, ["aNYIAKENG PUACHUE HMONG LOGOGRAM NYAJxCIRCLED CA"]),
   (0x1e290, ["aTOTO LETTER PAmBAmTAmDAmKAmGAmMAmNAnGAmSAmCHAmYAmWAmJAmHAmRAmLAmImBREATHY ImIUmB",
     "REATHY IUmUmEmBREATHY EmEOmBREATHY EOmOmAEmBREATHY AEmAfSIGN RISING TONE"]),
   (0x1e2c0, ["aWANCHO LETTER AAoAoBAoCAoDAoGAoYAoPHAoLAoNAoPAoTApHAoFAoSApHAoJAoZAoWAoVAoKAoOoA",
     "UoRAoMAoKHAoHAoEoIoNGAoUoLLHAoTSApRAoONGoAANGpNGoINGoONoENoAANoNYAoUENoYIHhTONE TUPpNImKOI",
     "pNIhDIGIT ZEROnONEnTWOoHREEnFOURoIVEnSIXoEVENnEIGHTnNINE"]),
   (0x1e2ff, ["aWANCHO NGUN SIGN"]),
   (0x1e7e0, ["aETHIOPIC SYLLABLE HHYAvUvIvAAvEEvEvO"]),
   (0x1e7e8, ["aETHIOPIC SYLLABLE GURAGE HHWAsHHWIvEEvE"]),
   (0x1e7ed, ["aETHIOPIC SYLLABLE GURAGE MWIbbEE"]),
   (0x1e7f0, ["aETHIOPIC SYLLABLE GURAGE QWIbbEEbbEzBWIbbEEzKWIbbEEbbEzGWIbbEEbbEzFWIbbEEzPWIbbE",
     "E"]),
   (0x1e800, ["aMENDE KIKAKUI SYLLABLE M001 KIba2 KAba3 KUz65 KEEz95 KEz76 KOOz48 KOy179 KUAy004",
     " WIba5 WAba6 WUy126 WEEz18 WEba4 WOOy045 WOy194 WUIz43 WEIy061 WVIz49 WVAy139 WVEy007 MINb",
     "a8 MANba9 MUNz59 MENz94 MONy154 MUANz89 MUENy010 BIba1 BAba2 BUy150 BEEy097 BEy103 BOOz38 ",
     "BOy013 Iba4 Aba5 Uy163 EEz00 Ez65 OOz47 Oz37 EIba1 INba5 INz95 ANz78 ENy019 SIz20 SAba1 SU",
     "y162 SEEz16 SEz36 SOOy079 SOy196 SIAy025 LIba6 LAba7 LUz84 LEEz73 LEz54 LOOy153 LOz10 LONG",
     " LEy016 DIba7 DAba8 DUz89 DEEy180 DOOba1 DOy022 TIba3 TAba4 TUz91 TEEz55 TEy104 TOOy069 TO",
     "z28 JIba9 JAz30 JUy157 JEEz13 JEz60 JOOy063 JOy175 LONG JOy031 YIba2 YAba3 YUy109 YEEy080 ",
     "YEy141 YOOz21 YOy034 FIba5 FAba6 FUz78 FEEba5 FEy133 FOOy088 FOy197 FUAz01 FANy037 NINba8 ",
     "NANba9 NUNy117 NENz69 NONz76 HIy041 HAy186 HUy040 HEEz96 HEz42 HOOy140 HOy083 HEEIy128 HOO",
     "Uy053 HINy130 HANy087 HUNz52 HENy193 HONy046 HUANz90 NGGIz43 NGGAz82 NGGUy115 NGGEEz46 NGG",
     "Ez56 NGGOOz20 NGGOz59 NGGAAz27 NGGUAy086 LONG NGGEy106 LONG NGGOOz83 LONG NGGOz55 GIz11 GA",
     "z68 GUz90 GEEz66 GUEIba7 GUANz84 NGENy057 NGONy177 NGUANy068 PIz99 PAz50 PUz81 PEEz51 PEy1",
     "02 POOy066 POy145 MBIy062 MBAy122 MBUy047 MBEEy188 MBEEy072 MBEy172 MBOOba4 MBOz87 MBUUz61",
     " LONG MBEz05 LONG MBOOz42 LONG MBOz32 KPIy092 KPAz74 KPUz44 KPEEy108 KPEz12 KPOOz58 KPOz24",
     " GBIy056 GBAy148 GBUy093 GBEEy107 GBEy071 GBOOba0 GBOy171 RAz23 NDIba9 NDAba5 NDUz91 NDEEz",
     "19 NDEy067 NDOOba4 NDOy152 NJAz92 NJUz49 NJEEz34 NJOOz82 VIba5 VAz51 VUz73 VEEy085 VEy144 ",
     "VOOy077 VOy164 NYINy058 NYANy170 NYUNy098 NYENz60 NYON"]),
   (0x1e8c7, ["aMENDE KIKAKUI DIGIT ONEuTWOvHREEuFOURvIVEuSIXvEVENuEIGHTuNINEoCOMBINING NUMBER T",
     "EENSbhNSbfHUNDREDSbfTHOUSANDSbgEN THOUSANDSbfHUNDRED THOUSANDSbfMILLIONS"]),
   (0x1e900, ["aADLAM CAPITAL LETTER ALIFvDAALIvLAAMvMIIMvBAvSINNYIIYHEvPEvBHEvRAvEvFAvIvOvDHAvY",
     "HEvWAWvNUNvKAFvYAvUvJIIMvCHIvHAvQAAFvGAvNYAvTUvNHAvVAvKHAvGBEvZALvKPOvSHAgSMALL LETTER ALI",
     "FtDAALItLAAMtMIIMtBAtSINNYIIYHEtPEtBHEtRAtEtFAtItOtDHAtYHEtWAWtNUNtKAFtYAtUtJIIMtCHItHAtQA",
     "AFtGAtNYAtTUtNHAtVAtKHAtGBEtZALtKPOtSHAgALIF LENGTHENERgVOWEL LENGTHENERgGEMINATION MARKgH",
     "AMZAgCONSONANT MODIFIERgGEMINATE CONSONANT MODIFIERgNUKTAhASALIZATION MARK"]),
   (0x1e950, ["aADLAM DIGIT ZEROmONEmTWOnHREEmFOURnIVEmSIXnEVENmEIGHTmNINE"]),
   (0x1e95e, ["aADLAM INITIAL EXCLAMATION MARKoQUESTION MARK"]),
   (0x1ec71, ["aINDIC SIYAQ NUMBER ONEtTWOuHREEtFOURuIVEtSIXuEVENtEIGHTtNINEtTENuWENTYuHIRTYtFOR",
     "TYuIFTYtSIXTYuEVENTYtEIGHTYtNINETYtONE HUNDREDtTWO HUNDREDuHREE HUNDREDtFOUR HUNDREDuIVE H",
     "UNDREDtSIX HUNDREDuEVEN HUNDREDtEIGHT HUNDREDtNINE HUNDREDtONE THOUSANDtTWO THOUSANDuHREE ",
     "THOUSANDtFOUR THOUSANDuIVE THOUSANDtSIX THOUSANDuEVEN THOUSANDtEIGHT THOUSANDtNINE THOUSAN",
     "DtTEN THOUSANDuWENTY THOUSANDuHIRTY THOUSANDtFORTY THOUSANDuIFTY THOUSANDtSIXTY THOUSANDuE",
     "VENTY THOUSANDtEIGHTY THOUSANDtNINETY THOUSANDtLAKHxANmLAKH MARKmNUMBER KARORyANtPREFIXED ",
     "ONEbcTWObdHREEbcFOURbdIVEbcSIXbdEVENbcEIGHTbcNINEmPLACEHOLDERmFRACTION ONE QUARTERzHALFvTH",
     "REE QUARTERSmRUPEE MARKmNUMBER ALTERNATE ONEbdTWObeEN THOUSANDmALTERNATE LAKH MARK"]),
   (0x1ed01, ["aOTTOMAN SIYAQ NUMBER ONEvTWOwHREEvFOURwIVEvSIXwEVENvEIGHTvNINEvTENwWENTYwHIRTYvF",
     "ORTYwIFTYvSIXTYwEVENTYvEIGHTYvNINETYvONE HUNDREDvTWO HUNDREDwHREE HUNDREDvFOUR HUNDREDwIVE",
     " HUNDREDvSIX HUNDREDwEVEN HUNDREDvEIGHT HUNDREDvNINE HUNDREDvONE THOUSANDvTWO THOUSANDwHRE",
     "E THOUSANDvFOUR THOUSANDwIVE THOUSANDvSIX THOUSANDwEVEN THOUSANDvEIGHT THOUSANDvNINE THOUS",
     "ANDvTEN THOUSANDwWENTY THOUSANDwHIRTY THOUSANDvFORTY THOUSANDwIFTY THOUSANDvSIXTY THOUSAND",
     "wEVENTY THOUSANDvEIGHTY THOUSANDvNINETY THOUSANDoMARRATANoALTERNATE NUMBER TWObgHREEbfFOUR",
     "bgIVEbfSIXbgEVENbfEIGHTbfNINEbfTENbfFOUR HUNDREDbfSIX HUNDREDbfTWO THOUSANDbgEN THOUSANDoF",
     "RACTION ONE HALFbbSIXTH"]),
   (0x1ee00, ["aARABIC MATHEMATICAL ALEFuBEHuJEEMuDAL"]),
   (0x1ee05, ["aARABIC MATHEMATICAL WAWuZAINuHAHuTAHuYEHuKAFuLAMuMEEMuNOONuSEENuAINuFEHuSADuQAFu",
     "REHuSHEENuTEHvHEHuKHAHuTHALuDADuZAHuGHAINuDOTLESS BEHbcNOONbcFEHbcQAF"]),
   (0x1ee21, ["aARABIC MATHEMATICAL INITIAL BEHbcJEEM"]),
   (0x1ee24, ["aARABIC MATHEMATICAL INITIAL HEH"]),
   (0x1ee27, ["aARABIC MATHEMATICAL INITIAL HAH"]),
   (0x1ee29, ["aARABIC MATHEMATICAL INITIAL YEHbcKAFbcLAMbcMEEMbcNOONbcSEENbcAINbcFEHbcSADbcQAF"]),
   (0x1ee34, ["aARABIC MATHEMATICAL INITIAL SHEENbcTEHbdHEHbcKHAH"]),
   (0x1ee39, ["aARABIC MATHEMATICAL INITIAL DAD"]),
   (0x1ee3b, ["aARABIC MATHEMATICAL INITIAL GHAIN"]),
   (0x1ee42, ["aARABIC MATHEMATICAL TAILED JEEM"]),
   (0x1ee47, ["aARABIC MATHEMATICAL TAILED HAH"]),
   (0x1ee49, ["aARABIC MATHEMATICAL TAILED YEH"]),
   (0x1ee4b, ["aARABIC MATHEMATICAL TAILED LAM"]),
   (0x1ee4d, ["aARABIC MATHEMATICAL TAILED NOONbbSEENbbAIN"]),
   (0x1ee51, ["aARABIC MATHEMATICAL TAILED SADbbQAF"]),
   (0x1ee54, ["aARABIC MATHEMATICAL TAILED SHEEN"]),
   (0x1ee57, ["aARABIC MATHEMATICAL TAILED KHAH"]),
   (0x1ee59, ["aARABIC MATHEMATICAL TAILED DAD"]),
   (0x1ee5b, ["aARABIC MATHEMATICAL TAILED GHAIN"]),
   (0x1ee5d, ["aARABIC MATHEMATICAL TAILED DOTLESS NOON"]),
   (0x1ee5f, ["aARABIC MATHEMATICAL TAILED DOTLESS QAF"]),
   (0x1ee61, ["aARABIC MATHEMATICAL STRETCHED BEHbeJEEM"]),
   (0x1ee64, ["aARABIC MATHEMATICAL STRETCHED HEH"]),
   (0x1ee67, ["aARABIC MATHEMATICAL STRETCHED HAHbeTAHbeYEHbeKAF"]),
   (0x1ee6c, ["aARABIC MATHEMATICAL STRETCHED MEEMbeNOONbeSEENbeAINbeFEHbeSADbeQAF"]),
   (0x1ee74, ["aARABIC MATHEMATICAL STRETCHED SHEENbeTEHbfHEHbeKHAH"]),
   (0x1ee79, ["aARABIC MATHEMATICAL STRETCHED DADbeZAHbeGHAINbeDOTLESS BEH"]),
   (0x1ee7e, ["aARABIC MATHEMATICAL STRETCHED DOTLESS FEH"]),
   (0x1ee80, ["aARABIC MATHEMATICAL LOOPED ALEFbbBEHbbJEEMbbDALbbHEHbbWAWbbZAINbbHAHbbTAHbbYEH"]),
   (0x1ee8b, ["aARABIC MATHEMATICAL LOOPED LAMbbMEEMbbNOONbbSEENbbAINbbFEHbbSADbbQAFbbREHbbSHEEN",
     "bbTEHbcHEHbbKHAHbbTHALbbDADbbZAHbbGHAIN"]),
   (0x1eea1, ["aARABIC MATHEMATICAL DOUBLE-STRUCK BEHbiJEEMbiDAL"]),
   (0x1eea5, ["aARABIC MATHEMATICAL DOUBLE-STRUCK WAWbiZAINbiHAHbiTAHbiYEH"]),
   (0x1eeab, ["aARABIC MATHEMATICAL DOUBLE-STRUCK LAMbiMEEMbiNOONbiSEENbiAINbiFEHbiSADbiQAFbiREH",
     "biSHEENbiTEHbjHEHbiKHAHbiTHALbiDADbiZAHbiGHAIN"]),
   (0x1eef0, ["aARABIC MATHEMATICAL OPERATOR MEEM WITH HAH WITH TATWEELbdHAH WITH DAL"]),
   (0x1f000, ["aMAHJONG TILE EAST WINDnSOUTH WINDnWEST WINDnNORTH WINDnRED DRAGONnGREEN DRAGONnW",
     "HITE DRAGONnONE OF CHARACTERSnTWO OF CHARACTERSoHREE OF CHARACTERSnFOUR OF CHARACTERSoIVE ",
     "OF CHARACTERSnSIX OF CHARACTERSoEVEN OF CHARACTERSnEIGHT OF CHARACTERSnNINE OF CHARACTERSn",
     "ONE OF BAMBOOSnTWO OF BAMBOOSoHREE OF BAMBOOSnFOUR OF BAMBOOSoIVE OF BAMBOOSnSIX OF BAMBOO",
     "SoEVEN OF BAMBOOSnEIGHT OF BAMBOOSnNINE OF BAMBOOSnONE OF CIRCLESnTWO OF CIRCLESoHREE OF C",
     "IRCLESnFOUR OF CIRCLESoIVE OF CIRCLESnSIX OF CIRCLESoEVEN OF CIRCLESnEIGHT OF CIRCLESnNINE",
     " OF CIRCLESnPLUMnORCHIDnBAMBOOnCHRYSANTHEMUMnSPRINGoUMMERnAUTUMNnWINTERnJOKERnBACK"]),
   (0x1f030, ["aDOMINO TILE HORIZONTAL BACKw-00-00bb1bb2bb3bb4bb5bb6y1-00bb1bb2bb3bb4bb5bb6y2-00",
     "bb1bb2bb3bb4bb5bb6y3-00bb1bb2bb3bb4bb5bb6y4-00bb1bb2bb3bb4bb5bb6y5-00bb1bb2bb3bb4bb5bb6y6-",
     "00bb1bb2bb3bb4bb5bb6mVERTICAL BACKu-00-00z1z2z3z4z5z6w1-00z1z2z3z4z5z6w2-00z1z2z3z4z5z6w3-",
     "00z1z2z3z4z5z6w4-00z1z2z3z4z5z6w5-00z1z2z3z4z5z6w6-00z1z2z3z4z5z6"]),
   (0x1f0a0, ["aPLAYING CARD BACKnACE OF SPADESnTWO OF SPADESoHREE OF SPADESnFOUR OF SPADESoIVE ",
     "OF SPADESnSIX OF SPADESoEVEN OF SPADESnEIGHT OF SPADESnNINE OF SPADESnTEN OF SPADESnJACK O",
     "F SPADESnKNIGHT OF SPADESnQUEEN OF SPADESnKING OF SPADES"]),
   (0x1f0b1, ["aPLAYING CARD ACE OF HEARTSnTWO OF HEARTSoHREE OF HEARTSnFOUR OF HEARTSoIVE OF HE",
     "ARTSnSIX OF HEARTSoEVEN OF HEARTSnEIGHT OF HEARTSnNINE OF HEARTSnTEN OF HEARTSnJACK OF HEA",
     "RTSnKNIGHT OF HEARTSnQUEEN OF HEARTSnKING OF HEARTSnRED JOKER"]),
   (0x1f0c1, ["aPLAYING CARD ACE OF DIAMONDSnTWO OF DIAMONDSoHREE OF DIAMONDSnFOUR OF DIAMONDSoI",
     "VE OF DIAMONDSnSIX OF DIAMONDSoEVEN OF DIAMONDSnEIGHT OF DIAMONDSnNINE OF DIAMONDSnTEN OF ",
     "DIAMONDSnJACK OF DIAMONDSnKNIGHT OF DIAMONDSnQUEEN OF DIAMONDSnKING OF DIAMONDSnBLACK JOKE",
     "R"]),
   (0x1f0d1, ["aPLAYING CARD ACE OF CLUBSnTWO OF CLUBSoHREE OF CLUBSnFOUR OF CLUBSoIVE OF CLUBSn",
     "SIX OF CLUBSoEVEN OF CLUBSnEIGHT OF CLUBSnNINE OF CLUBSnTEN OF CLUBSnJACK OF CLUBSnKNIGHT ",
     "OF CLUBSnQUEEN OF CLUBSnKING OF CLUBSnWHITE JOKERnFOOLnTRUMP-1t2t3t4t5t6t7t8t9t10u1u2u3u4u",
     "5u6u7u8u9t20u1"]),
   (0x1f100, ["aDIGIT ZERO FULL STOPlCOMMAgONE COMMAgTWO COMMAhHREE COMMAgFOUR COMMAhIVE COMMAgS",
     "IX COMMAhEVEN COMMAgEIGHT COMMAgNINE COMMAcNGBAT CIRCLED SANS-SERIF DIGIT ZEROiNEGATIVE CI",
     "RCLED SANS-SERIF DIGIT ZEROaCIRCLED ZERO WITH SLASHiANTICLOCKWISE ARROWiDOLLAR SIGN WITH O",
     "VERLAID BACKSLASHaPARENTHESIZED LATIN CAPITAL LETTER AbjBbjCbjDbjEbjFbjGbjHbjIbjJbjKbjLbjM",
     "bjNbjObjPbjQbjRbjSbjTbjUbjVbjWbjXbjYbjZaTORTOISE SHELL BRACKETED LATIN CAPITAL LETTER SaCI",
     "RCLED ITALIC LATIN CAPITAL LETTER CbkRiCDiWZbOPYLEFT SYMBOLaSQUARED LATIN CAPITAL LETTER A",
     "bdBbdCbdDbdEbdFbdGbdHbdIbdJbdKbdLbdMbdNbdObdPbdQbdRbdSbdTbdUbdVbdWbdXbdYbdZiHViMViSDjSiPPV",
     "iWCaNEGATIVE CIRCLED LATIN CAPITAL LETTER AbmBbmCbmDbmEbmFbmGbmHbmIbmJbmKbmLbmMbmNbmObmPbm",
     "QbmRbmSbmTbmUbmVbmWbmXbmYbmZaRAISED MC SIGNiD SIGNiR SIGNaCIRCLED CCj WITH OVERLAID BACKSL",
     "ASHiHUMAN FIGUREaNEGATIVE SQUARED LATIN CAPITAL LETTER AbmBbmCbmDbmEbmFbmGbmHbmIbmJbmKbmLb",
     "mMbmNbmObmPbmQbmRbmSbmTbmUbmVbmWbmXbmYbmZaCROSSED NEGATIVE SQUARED LATIN CAPITAL LETTER Pa",
     "NEGATIVE SQUARED ICrPArSArABrWCaSQUARE DJgD CLjOOLiFREEiIDiNEWjGiOKiSOSiUP WITH EXCLAMATIO",
     "N MARKiVSiTHREE DiSECOND SCREENiTWO KiFOUR KiEIGHT KiFIVE POINT ONEiSEVEN POINT ONEiTWENTY",
     "-TWO POINT TWOiSIXTY PiONE HUNDRED TWENTY PiLATIN SMALL LETTER DiHCjDRjI-RESiLOSSLESSiSHVi",
     "UHDiVODaMASK WORK SYMBOL"]),
   (0x1f1e6, ["aREGIONAL INDICATOR SYMBOL LETTER AbhBbhCbhDbhEbhFbhGbhHbhIbhJbhKbhLbhMbhNbhObhPb",
     "hQbhRbhSbhTbhUbhVbhWbhXbhYbhZaSQUARE HIRAGANA HOKAgD KATAKANA KOKOrSA"]),
   (0x1f210, ["aSQUARED CJK UNIFIED IDEOGRAPH-624Bbe5B57bf3CCiKATAKANA DEiCJK UNIFIED IDEOGRAPH-",
     "4E8Cbe591Abe89E3be5929be4EA4be6620be7121be6599be524DbfF8Cbf18Dbe65B0be521Dbe7D42bf51Fbe8CA",
     "9be58F0bf439be6F14bf295bf355be4E00bh9be904Abe5DE6be4E2Dbe53F3be6307be8D70be6253be7981bfA7A",
     "be5408be6E80bf709bh8be7533be5272bf5B6be914D"]),
   (0x1f240, ["aTORTOISE SHELL BRACKETED CJK UNIFIED IDEOGRAPH-672Cbv4E09bx8Cbv5B89bv70B9bv6253b",
     "v76D7bv52DDbv6557"]),
   (0x1f250, ["aCIRCLED IDEOGRAPH ADVANTAGEtCCEPT"]),
   (0x1f260, ["aROUNDED SYMBOL FOR FUtLUtSHOUtXItSHUANGXItCAI"]),
   (0x1f300, ["aCYCLONEaFOGGYaCLOSED UMBRELLAaNIGHT WITH STARSaSUNRISE OVER MOUNTAINSgEaCITYSCAP",
     "E AT DUSKaSUNSET OVER BUILDINGSaRAINBOWaBRIDGE AT NIGHTaWATER WAVEaVOLCANOaMILKY WAYaEARTH",
     " GLOBE EUROPE-AFRICAmAMERICASnSIA-AUSTRALIAaGLOBE WITH MERIDIANSaNEW MOON SYMBOLaWAXING CR",
     "ESCENT MOON SYMBOLaFIRST QUARTER MOON SYMBOLaWAXING GIBBOUS MOON SYMBOLaFULL MOON SYMBOLaW",
     "ANING GIBBOUS MOON SYMBOLaLAST QUARTER MOON SYMBOLaWANING CRESCENT MOON SYMBOLaCRESCENT MO",
     "ONaNEW MOON WITH FACEaFIRST QUARTER MOON WITH FACEaLAST QUARTER MOON WITH FACEaFULL MOON W",
     "ITH FACEaSUN WITH FACEaGLOWING STARaSHOOTING STARaTHERMOMETERaBLACK DROPLETaWHITE SUNj WIT",
     "H SMALL CLOUDkBEHIND CLOUDw WITH RAINaCLOUD WITH RAINlSNOWlLIGHTNINGlTORNADOaFOGaWIND BLOW",
     "ING FACEaHOT DOGaTACOaBURRITOaCHESTNUTaSEEDLINGaEVERGREEN TREEaDECIDUOUS TREEaPALM TREEaCA",
     "CTUSaHOT PEPPERaTULIPaCHERRY BLOSSOMaROSEaHIBISCUSaSUNFLOWERaBLOSSOMaEAR OF MAIZEhRICEaHER",
     "BaFOUR LEAF CLOVERaMAPLE LEAFaFALLEN LEAFaLEAF FLUTTERING IN WINDaMUSHROOMaTOMATOaAUBERGIN",
     "EaGRAPESaMELONaWATERMELONaTANGERINEaLEMONaBANANAaPINEAPPLEaRED APPLEaGREEN APPLEaPEARdCHaC",
     "HERRIESaSTRAWBERRYaHAMBURGERaSLICE OF PIZZAaMEAT ON BONEaPOULTRY LEGaRICE CRACKERfBALLaCOO",
     "KED RICEbURRY AND RICEaSTEAMING BOWLbPAGHETTIaBREADaFRENCH FRIESaROASTED SWEET POTATOaDANG",
     "OaODENaSUSHIaFRIED SHRIMPbISH CAKE WITH SWIRL DESIGNaSOFT ICE CREAMbHAVED ICEaICE CREAMaDO",
     "UGHNUTaCOOKIEbHOCOLATE BARbANDYaLOLLIPOPaCUSTARDaHONEY POTaSHORTCAKEaBENTO BOXaPOT OF FOOD",
     "aCOOKINGaFORK AND KNIFEaTEACUP WITHOUT HANDLEaSAKE BOTTLE AND CUPaWINE GLASSaCOCKTAIL GLAS",
     "SaTROPICAL DRINKaBEER MUGaCLINKING BEER MUGSaBABY BOTTLEaFORK AND KNIFE WITH PLATEaBOTTLE ",
     "WITH POPPING CORKaPOPCORNaRIBBONaWRAPPED PRESENTaBIRTHDAY CAKEaJACK-O-LANTERNaCHRISTMAS TR",
     "EEaFATHER CHRISTMASbIREWORKSi SPARKLERaBALLOONaPARTY POPPERaCONFETTI BALLaTANABATA TREEaCR",
     "OSSED FLAGSaPINE DECORATIONaJAPANESE DOLLSaCARP STREAMERaWIND CHIMEaMOON VIEWING CEREMONYa",
     "SCHOOL SATCHELaGRADUATION CAPaHEART WITH TIP ON THE LEFTaBOUQUET OF FLOWERSaMILITARY MEDAL",
     "aREMINDER RIBBONaMUSICAL KEYBOARD WITH JACKSaSTUDIO MICROPHONEaLEVEL SLIDERaCONTROL KNOBSa",
     "BEAMED ASCENDING MUSICAL NOTEShDESCENDING MUSICAL NOTESaFILM FRAMESaADMISSION TICKETSaCARO",
     "USEL HORSEaFERRIS WHEELaROLLER COASTERaFISHING POLE AND FISHaMICROPHONEbOVIE CAMERAaCINEMA",
     "aHEADPHONEaARTIST PALETTEaTOP HATaCIRCUS TENTaTICKETaCLAPPER BOARDaPERFORMING ARTSaVIDEO G",
     "AMEaDIRECT HITaSLOT MACHINEaBILLIARDSaGAME DIEaBOWLINGaFLOWER PLAYING CARDSaMUSICAL NOTEcL",
     "TIPLE MUSICAL NOTESaSAXOPHONEaGUITARaMUSICAL KEYBOARDaTRUMPETaVIOLINaMUSICAL SCOREaRUNNING",
     " SHIRT WITH SASHaTENNIS RACQUET AND BALLaSKI AND SKI BOOTaBASKETBALL AND HOOPaCHEQUERED FL",
     "AGaSNOWBOARDERaRUNNERaSURFERbPORTS MEDALaTROPHYaHORSE RACINGaAMERICAN FOOTBALLaRUGBY FOOTB",
     "ALLaSWIMMERaWEIGHT LIFTERaGOLFERaRACING MOTORCYCLEhCARaCRICKET BAT AND BALLaVOLLEYBALLaFIE",
     "LD HOCKEY STICK AND BALLaICE HOCKEY STICK AND PUCKaTABLE TENNIS PADDLE AND BALLaSNOW CAPPE",
     "D MOUNTAINaCAMPINGaBEACH WITH UMBRELLAbUILDING CONSTRUCTIONaHOUSE BUILDINGSaCITYSCAPEaDERE",
     "LICT HOUSE BUILDINGaCLASSICAL BUILDINGaDESERTg ISLANDaNATIONAL PARKaSTADIUMaHOUSE BUILDING",
     "gWITH GARDENaOFFICE BUILDINGaJAPANESE POST OFFICEaEUROPEAN POST OFFICEaHOSPITALaBANKaAUTOM",
     "ATED TELLER MACHINEaHOTELaLOVE HOTELaCONVENIENCE STOREaSCHOOLaDEPARTMENT STOREaFACTORYaIZA",
     "KAYA LANTERNaJAPANESE CASTLEaEUROPEAN CASTLEaWHITE PENNANTaBLACK PENNANTaWAVING WHITE FLAG",
     "hBLACK FLAGaROSETTEaBLACK ROSETTEaLABELaBADMINTON RACQUET AND SHUTTLECOCKbOW AND ARROWaAMP",
     "HORAaEMOJI MODIFIER FITZPATRICK TYPE-1-2bg3bg4bg5bg6aRATaMOUSEaOXaWATER BUFFALOaCOWaTIGERa",
     "LEOPARDaRABBITaCATaDRAGONaCROCODILEaWHALEaSNAILdKEaHORSEaRAMaGOATaSHEEPaMONKEYaROOSTERaCHI",
     "CKENaDOGaPIGaBOARaELEPHANTaOCTOPUSaSPIRAL SHELLaBUGaANTaHONEYBEEaLADY BEETLEaFISHaTROPICAL",
     " FISHaBLOWFISHaTURTLEaHATCHING CHICKaBABY CHICKaFRONT-FACING BABY CHICKaBIRDaPENGUINaKOALA",
     "aPOODLEaDROMEDARY CAMELaBACTRIAN CAMELaDOLPHINaMOUSE FACEaCOW FACEaTIGER FACEaRABBIT FACEa",
     "CAT FACEaDRAGON FACEaSPOUTING WHALEaHORSE FACEaMONKEY FACEaDOG FACEaPIG FACEaFROG FACEaHAM",
     "STER FACEaWOLF FACEaBEAR FACEaPANDA FACEbIG NOSEbAW PRINTSaCHIPMUNKaEYEScEbARaNOSEaMOUTHaT",
     "ONGUEaWHITE UP POINTING BACKHAND INDEXgDOWN POINTING BACKHAND INDEXgLEFT POINTING BACKHAND",
     " INDEXgRIGHT POINTING BACKHAND INDEXaFISTED HAND SIGNaWAVING HAND SIGNaOK HAND SIGNaTHUMBS",
     " UP SIGNhDOWN SIGNaCLAPPING HANDS SIGNaOPEN HANDS SIGNaCROWNaWOMANS HATaEYEGLASSESaNECKTIE",
     "aT-SHIRTaJEANSaDRESSaKIMONOaBIKINIaWOMANS CLOTHESaPURSEaHANDBAGaPOUCHaMANS SHOEaATHLETIC S",
     "HOEaHIGH-HEELED SHOEaWOMANS SANDALhBOOTSaFOOTPRINTSaBUST IN SILHOUETTEeS IN SILHOUETTEbOYa",
     "GIRLaMANaWOMANaFAMILYaMAN AND WOMAN HOLDING HANDSaTWO MEN HOLDING HANDSeWOMEN HOLDING HAND",
     "SaPOLICE OFFICERaWOMAN WITH BUNNY EARSaBRIDE WITH VEILaPERSON WITH BLOND HAIRaMAN WITH GUA",
     " PI MAOjTURBANaOLDER MANgWOMANaBABYaCONSTRUCTION WORKERaPRINCESSaJAPANESE OGREjGOBLINaGHOS",
     "TaBABY ANGELaEXTRATERRESTRIAL ALIENaALIEN MONSTERaIMPaSKULLaINFORMATION DESK PERSONaGUARDS",
     "MANaDANCERaLIPSTICKaNAIL POLISHaFACE MASSAGEaHAIRCUTaBARBER POLEaSYRINGEaPILLaKISS MARKaLO",
     "VE LETTERaRINGaGEM STONEaKISSaBOUQUETaCOUPLE WITH HEARTaWEDDINGaBEATING HEARTbROKEN HEARTa",
     "TWO HEARTSaSPARKLING HEARTaGROWING HEARTaHEART WITH ARROWaBLUE HEARTaGREEN HEARTaYELLOW HE",
     "ARTaPURPLE HEARTaHEART WITH RIBBONaREVOLVING HEARTSaHEART DECORATIONaDIAMOND SHAPE WITH A ",
     "DOT INSIDEaELECTRIC LIGHT BULBaANGER SYMBOLaBOMBaSLEEPING SYMBOLaCOLLISION SYMBOLaSPLASHIN",
     "G SWEAT SYMBOLaDROPLETbASH SYMBOLaPILE OF POOaFLEXED BICEPSaDIZZY SYMBOLaSPEECH BALLOONaTH",
     "OUGHT BALLOONaWHITE FLOWERaHUNDRED POINTS SYMBOLaMONEY BAGaCURRENCY EXCHANGEaHEAVY DOLLAR ",
     "SIGNaCREDIT CARDaBANKNOTE WITH YEN SIGNoDOLLAR SIGNoEURO SIGNoPOUND SIGNaMONEY WITH WINGSa",
     "CHART WITH UPWARDS TREND AND YEN SIGNaSEATaPERSONAL COMPUTERaBRIEFCASEaMINIDISCaFLOPPY DIS",
     "KaOPTICAL DISCaDVDaFILE FOLDERaOPEN FILE FOLDERaPAGE WITH CURLfFACING UPaCALENDARaTEAR-OFF",
     " CALENDARaCARD INDEXbHART WITH UPWARDS TRENDlDOWNWARDS TRENDaBAR CHARTaCLIPBOARDaPUSHPINaR",
     "OUND PUSHPINaPAPERCLIPaSTRAIGHT RULERaTRIANGULAR RULERaBOOKMARK TABSaLEDGERaNOTEBOOKi WITH",
     " DECORATIVE COVERaCLOSED BOOKaOPEN BOOKaGREEN BOOKaBLUE BOOKaORANGE BOOKaBOOKSaNAME BADGEa",
     "SCROLLaMEMOaTELEPHONE RECEIVERaPAGERaFAX MACHINEaSATELLITE ANTENNAaPUBLIC ADDRESS LOUDSPEA",
     "KERaCHEERING MEGAPHONEaOUTBOX TRAYaINBOX TRAYaPACKAGEaE-MAIL SYMBOLaINCOMING ENVELOPEaENVE",
     "LOPE WITH DOWNWARDS ARROW ABOVEaCLOSED MAILBOX WITH LOWERED FLAGuRAISED FLAGaOPEN MAILBOX ",
     "WITH RAISED FLAGsLOWERED FLAGaPOSTBOXeAL HORNaNEWSPAPERaMOBILE PHONEm WITH RIGHTWARDS ARRO",
     "W AT LEFTaVIBRATION MODEaMOBILE PHONE OFFaNO MOBILE PHONESaANTENNA WITH BARSaCAMERAg WITH ",
     "FLASHaVIDEO CAMERAaTELEVISIONaRADIOaVIDEOCASSETTEaFILM PROJECTORaPORTABLE STEREObRAYER BEA",
     "DSaTWISTED RIGHTWARDS ARROWSaCLOCKWISE RIGHTWARDS AND LEFTWARDS OPEN CIRCLE ARROWScb WITH ",
     "CIRCLED ONE OVERLAYkDOWNWARDS AND UPWARDS OPEN CIRCLE ARROWSaANTICLOCKWISE DOWNWARDS AND U",
     "PWARDS OPEN CIRCLE ARROWSaLOW BRIGHTNESS SYMBOLaHIGH BRIGHTNESS SYMBOLaSPEAKER WITH CANCEL",
     "LATION STROKEgRh WITH ONE SOUND WAVEnTHREE SOUND WAVESaBATTERYaELECTRIC PLUGaLEFT-POINTING",
     " MAGNIFYING GLASSaRIGHT-POINTING MAGNIFYING GLASSaLOCK WITH INK PENaCLOSED LOCK WITH KEYaK",
     "EYaLOCKaOPEN LOCKaBELLe WITH CANCELLATION STROKEbOOKMARKaLINK SYMBOLaRADIO BUTTONaBACK WIT",
     "H LEFTWARDS ARROW ABOVEaEND WITH LEFTWARDS ARROW ABOVEaON WITH EXCLAMATION MARK WITH LEFT ",
     "RIGHT ARROW ABOVEaSOON WITH RIGHTWARDS ARROW ABOVEaTOP WITH UPWARDS ARROW ABOVEaNO ONE UND",
     "ER EIGHTEEN SYMBOLaKEYCAP TENaINPUT SYMBOL FOR LATIN CAPITAL LETTERSxSMALL LETTERSrNUMBERS",
     "rSYMBOLSrLATIN LETTERSaFIREaELECTRIC TORCHaWRENCHaHAMMERaNUT AND BOLTaHOCHOaPISTOLaMICROSC",
     "OPEaTELESCOPEaCRYSTAL BALLaSIX POINTED STAR WITH MIDDLE DOTaJAPANESE SYMBOL FOR BEGINNERaT",
     "RIDENT EMBLEMaBLACK SQUARE BUTTONaWHITE SQUARE BUTTONaLARGE RED CIRCLEgBLUE CIRCLEgORANGE ",
     "DIAMONDgBLUE DIAMONDaSMALL ORANGE DIAMONDgBLUE DIAMONDaUP-POINTING RED TRIANGLEaDOWN-POINT",
     "ING RED TRIANGLEaUP-POINTING SMALL RED TRIANGLEaDOWN-POINTING SMALL RED TRIANGLEaLOWER RIG",
     "HT SHADOWED WHITE CIRCLEaUPPER RIGHT SHADOWED WHITE CIRCLEaCIRCLED CROSS POMMEEbROSS POMME",
     "E WITH HALF-CIRCLE BELOWlEaNOTCHED LEFT SEMICIRCLE WITH THREE DOTSiRIGHT SEMICIRCLE WITH T",
     "HREE DOTSaSYMBOL FOR MARKS CHAPTERaWHITE LATIN CROSSaHEAVY LATIN CROSSaCELTIC CROSSaOM SYM",
     "BOLaDOVE OF PEACEaKAABAaMOSQUEaSYNAGOGUEaMENORAH WITH NINE BRANCHESaBOWL OF HYGIEIAaCLOCK ",
     "FACE ONE OCLOCKlTWO OCLOCKmHREE OCLOCKlFOUR OCLOCKmIVE OCLOCKlSIX OCLOCKmEVEN OCLOCKlEIGHT",
     " OCLOCKlNINE OCLOCKlTEN OCLOCKlELEVEN OCLOCKlTWELVE OCLOCKlONE-THIRTYlTWO-THIRTYmHREE-THIR",
     "TYlFOUR-THIRTYmIVE-THIRTYlSIX-THIRTYmEVEN-THIRTYlEIGHT-THIRTYlNINE-THIRTYlTEN-THIRTYlELEVE",
     "N-THIRTYlTWELVE-THIRTYaRIGHT SPEAKERn WITH ONE SOUND WAVEtTHREE SOUND WAVESaBULLHORNi WITH",
     " SOUND WAVESaRINGING BELLaBOOKaCANDLEaMANTELPIECE CLOCKaBLACK SKULL AND CROSSBONESaNO PIRA",
     "CYaHOLEaMAN IN BUSINESS SUIT LEVITATINGaSLEUTH OR SPYaDARK SUNGLASSESaSPIDERg WEBaJOYSTICK",
     "aMAN DANCINGaLEFT HAND TELEPHONE RECEIVERaTELEPHONE RECEIVER WITH PAGEaRIGHT HAND TELEPHON",
     "E RECEIVERaWHITE TOUCHTONE TELEPHONEaBLACK TOUCHTONE TELEPHONEaTELEPHONE ON TOP OF MODEMaC",
     "LAMSHELL MOBILE PHONEaBACK OF ENVELOPEaSTAMPED ENVELOPEaENVELOPE WITH LIGHTNINGaFLYING ENV",
     "ELOPEaPEN OVER STAMPED ENVELOPEaLINKED PAPERCLIPSaBLACK PUSHPINaLOWER LEFT PENCILlBALLPOIN",
     "T PENlFOUNTAIN PENlPAINTBRUSHlCRAYONbEFT WRITING HANDaTURNED OK HAND SIGNaRAISED HAND WITH",
     " FINGERS SPLAYEDbEVERSED RAISED HAND WITH FINGERS SPLAYEDjTHUMBS UP SIGNqDOWN SIGNjVICTORY",
     " HANDjHAND WITH MIDDLE FINGER EXTENDEDbAISED HAND WITH PART BETWEEN MIDDLE AND RING FINGER",
     "SaWHITE DOWN POINTING LEFT HAND INDEXaSIDEWAYS WHITE LEFT POINTING INDEXpRIGHT POINTING IN",
     "DEXjBLACK LEFT POINTING INDEXpRIGHT POINTING INDEXaBLACK LEFT POINTING BACKHAND INDEXgRIGH",
     "T POINTING BACKHAND INDEXaSIDEWAYS WHITE UP POINTING INDEXpDOWN POINTING INDEXjBLACK UP PO",
     "INTING INDEXpDOWN POINTING INDEXaBLACK UP POINTING BACKHAND INDEXgDOWN POINTING BACKHAND I",
     "NDEXgHEARTaDESKTOP COMPUTERaKEYBOARD AND MOUSEaTHREE NETWORKED COMPUTERSaPRINTERbOCKET CAL",
     "CULATORaBLACK HARD SHELL FLOPPY DISKaWHITE HARD SHELL FLOPPY DISKaSOFT SHELL FLOPPY DISKaT",
     "APE CARTRIDGEaWIRED KEYBOARDaONE BUTTON MOUSEaTWO BUTTON MOUSEbHREE BUTTON MOUSEbRACKBALLa",
     "OLD PERSONAL COMPUTERaHARD DISKaSCREENaPRINTER ICONaFAX ICONaOPTICAL DISC ICONaDOCUMENT WI",
     "TH TEXTs AND PICTUREoPICTUREaFRAME WITH PICTURElTILESlAN XaBLACK FOLDERaFOLDERaOPEN FOLDER",
     "aCARD INDEX DIVIDERSfFILE BOXaFILE CABINETaEMPTY NOTEk PAGEnDaNOTEe PAGEhDaEMPTY DOCUMENTg",
     "PAGEkSaDOCUMENTaPAGEeSaWASTEBASKETaSPIRAL NOTE PADhCALENDAR PADaDESKTOP WINDOWaMINIMIZEbAX",
     "IMIZEaOVERLAPaCLOCKWISE RIGHT AND LEFT SEMICIRCLE ARROWSbANCELLATION XaINCREASE FONT SIZE ",
     "SYMBOLaDECREASE FONT SIZE SYMBOLaCOMPRESSIONaOLD KEYaROLLED-UP NEWSPAPERaPAGE WITH CIRCLED",
     " TEXTaSTOCK CHARTaDAGGER KNIFEaLIPSaSPEAKING HEAD IN SILHOUETTEaTHREE RAYS ABOVElBELOWlLEF",
     "TlRIGHTaLEFT SPEECH BUBBLEaRIGHT SPEECH BUBBLEaTWO SPEECH BUBBLESbHREE SPEECH BUBBLESaLEFT",
     " THOUGHT BUBBLEaRIGHT THOUGHT BUBBLEaLEFT ANGER BUBBLEaRIGHT ANGER BUBBLEaMOOD BUBBLEaLIGH",
     "TNING MOOD BUBBLEnDaBALLOT BOX WITH BALLOThSCRIPT XhBOX WITH SCRIPT XjLD SCRIPT XjX WITH B",
     "OLD SCRIPT XaLIGHT CHECK MARKaBALLOT BOX WITH BOLD CHECKaWORLD MAPaMOUNT FUJIaTOKYO TOWERa",
     "STATUE OF LIBERTYbILHOUETTE OF JAPANaMOYAIaGRINNING FACEn WITH SMILING EYESaFACE WITH TEAR",
     "S OF JOYaSMILING FACE WITH OPEN MOUTHbc AND SMILING EYESbhCOLD SWEATbhTIGHTLY-CLOSED EYESs",
     "HALOtORNSaWINKING FACEaSMILING FACE WITH SMILING EYESaFACE SAVOURING DELICIOUS FOODaRELIEV",
     "ED FACEaSMILING FACE WITH HEART-SHAPED EYESsSUNGLASSESdRKING FACEaNEUTRAL FACEaEXPRESSIONL",
     "ESS FACEaUNAMUSED FACEaFACE WITH COLD SWEATaPENSIVE FACEaCONFUSED FACEeOUNDED FACEaKISSING",
     " FACEaFACE THROWING A KISSaKISSING FACE WITH SMILING EYESsCLOSED EYESaFACE WITH STUCK-OUT ",
     "TONGUEba AND WINKING EYEbfTIGHTLY-CLOSED EYESaDISAPPOINTED FACEaWORRIED FACEaANGRY FACEaPO",
     "UTING FACEaCRYING FACEaPERSEVERING FACEaFACE WITH LOOK OF TRIUMPHaDISAPPOINTED BUT RELIEVE",
     "D FACEaFROWNING FACE WITH OPEN MOUTHaANGUISHED FACEaFEARFUL FACEaWEARY FACEaSLEEPY FACEaTI",
     "RED FACEaGRIMACING FACEaLOUDLY CRYING FACEaFACE WITH OPEN MOUTHaHUSHED FACEaFACE WITH OPEN",
     " MOUTH AND COLD SWEATfSCREAMING IN FEARaASTONISHED FACEaFLUSHED FACEaSLEEPING FACEaDIZZY F",
     "ACEaFACE WITHOUT MOUTHj MEDICAL MASKaGRINNING CAT FACE WITH SMILING EYESaCAT FACE WITH TEA",
     "RS OF JOYaSMILING CAT FACE WITH OPEN MOUTHwHEART-SHAPED EYESaCAT FACE WITH WRY SMILEaKISSI",
     "NG CAT FACE WITH CLOSED EYESaPOUTING CAT FACEaCRYING CAT FACEaWEARY CAT FACEaSLIGHTLY FROW",
     "NING FACEjSMILING FACEaUPSIDE-DOWN FACEaFACE WITH ROLLING EYESkNO GOOD GESTUREkOK GESTUREa",
     "PERSON BOWING DEEPLYaSEE-NO-EVIL MONKEYaHEAR-NO-EVIL MONKEYaSPEAK-NO-EVIL MONKEYaHAPPY PER",
     "SON RAISING ONE HANDaPERSON RAISING BOTH HANDS IN CELEBRATIONhFROWNINGhWITH POUTING FACEmF",
     "OLDED HANDSaNORTH WEST POINTING LEAFaSOUTH WEST POINTING LEAFaNORTH EAST POINTING LEAFaSOU",
     "TH EAST POINTING LEAFaTURNED NORTH WEST POINTING LEAFhSOUTH WEST POINTING LEAFhNORTH EAST ",
     "POINTING LEAFhSOUTH EAST POINTING LEAFaNORTH WEST POINTING VINE LEAFaSOUTH WEST POINTING V",
     "INE LEAFaNORTH EAST POINTING VINE LEAFaSOUTH EAST POINTING VINE LEAFaHEAVY NORTH WEST POIN",
     "TING VINE LEAFgSOUTH WEST POINTING VINE LEAFgNORTH EAST POINTING VINE LEAFgSOUTH EAST POIN",
     "TING VINE LEAFaNORTH WEST POINTING BUDaSOUTH WEST POINTING BUDaNORTH EAST POINTING BUDaSOU",
     "TH EAST POINTING BUDaHEAVY NORTH WEST POINTING BUDgSOUTH WEST POINTING BUDgNORTH EAST POIN",
     "TING BUDgSOUTH EAST POINTING BUDbOLLOW QUILT SQUARE ORNAMENTbc IN BLACK SQUAREaSOLID QUILT",
     " SQUARE ORNAMENTbb IN BLACK SQUAREaLEFTWARDS ROCKETaUPWARDS ROCKETaRIGHTWARDS ROCKETaDOWNW",
     "ARDS ROCKETaSCRIPT LIGATURE ET ORNAMENTaHEAVY SCRIPT LIGATURE ET ORNAMENTaLIGATURE OPEN ET",
     " ORNAMENTaHEAVY LIGATURE OPEN ET ORNAMENTgAMPERSAND ORNAMENTaSWASH AMPERSAND ORNAMENTbANS-",
     "SERIF HEAVY DOUBLE TURNED COMMA QUOTATION MARK ORNAMENTyCOMMA QUOTATION MARK ORNAMENTrLOW ",
     "DOUBLE COMMA QUOTATION MARK ORNAMENTaHEAVY INTERROBANG ORNAMENTaSANS-SERIF INTERROBANG ORN",
     "AMENTaHEAVY SANS-SERIF INTERROBANG ORNAMENTaVERY HEAVY SOLIDUSlREVERSE SOLIDUSaCHECKER BOA",
     "RDaREVERSE CHECKER BOARDbOCKETaHELICOPTERaSTEAM LOCOMOTIVEaRAILWAY CARaHIGH-SPEED TRAINq W",
     "ITH BULLET NOSEaTRAINaMETROaLIGHT RAILaSTATIONaTRAMe CARaBUSaONCOMING BUSaTROLLEYBUSaBUS S",
     "TOPaMINIBUSaAMBULANCEaFIRE ENGINEaPOLICE CARaONCOMING POLICE CARaTAXIaONCOMING TAXIaAUTOMO",
     "BILEaONCOMING AUTOMOBILEaRECREATIONAL VEHICLEaDELIVERY TRUCKaARTICULATED LORRYaTRACTORaMON",
     "ORAILcUNTAIN RAILWAYaSUSPENSION RAILWAYaMOUNTAIN CABLEWAYaAERIAL TRAMWAYaSHIPaROWBOATaSPEE",
     "DBOATaHORIZONTAL TRAFFIC LIGHTaVERTICAL TRAFFIC LIGHTaCONSTRUCTION SIGNaPOLICE CARS REVOLV",
     "ING LIGHTaTRIANGULAR FLAG ON POSTaDOORaNO ENTRY SIGNaSMOKING SYMBOLaNO SMOKING SYMBOLaPUT ",
     "LITTER IN ITS PLACE SYMBOLaDO NOT LITTER SYMBOLaPOTABLE WATER SYMBOLaNON-POTABLE WATER SYM",
     "BOLaBICYCLEaNO BICYCLESaBICYCLISTaMOUNTAIN BICYCLISTaPEDESTRIANaNO PEDESTRIANSaCHILDREN CR",
     "OSSINGaMENS SYMBOLaWOMENS SYMBOLaRESTROOMaBABY SYMBOLaTOILETaWATER CLOSETaSHOWERaBATHeTUBa",
     "PASSPORT CONTROLaCUSTOMSaBAGGAGE CLAIMaLEFT LUGGAGEaTRIANGLE WITH ROUNDED CORNERSaPROHIBIT",
     "ED SIGNaCIRCLED INFORMATION SOURCEaBOYS SYMBOLaGIRLS SYMBOLaCOUCH AND LAMPaSLEEPING ACCOMM",
     "ODATIONbHOPPING BAGSaBELLHOP BELLcDaPLACE OF WORSHIPaOCTAGONAL SIGNaSHOPPING TROLLEYbTUPAa",
     "PAGODAaHINDU TEMPLEbUTaELEVATOR"]),
   (0x1f6dd, ["aPLAYGROUND SLIDEaWHEELaRING BUOYaHAMMER AND WRENCHaSHIELDaOIL DRUMaMOTORWAYaRAIL",
     "WAY TRACKaMOTOR BOATaUP-POINTING MILITARY AIRPLANEmAIRPLANEmSMALL AIRPLANEaSMALL AIRPLANEa",
     "NORTHEAST-POINTING AIRPLANEaAIRPLANE DEPARTUREjARRIVING"]),
   (0x1f6f0, ["aSATELLITEaONCOMING FIRE ENGINEaDIESEL LOCOMOTIVEaPASSENGER SHIPaSCOOTERaMOTOR SC",
     "OOTERaCANOEaSLEDaFLYING SAUCERaSKATEBOARDaAUTO RICKSHAWaPICKUP TRUCKaROLLER SKATE"]),
   (0x1f700, ["aALCHEMICAL SYMBOL FOR QUINTESSENCEwAIRwFIREwEARTHwWATERwAQUAFORTISba REGIAbg-2bb",
     "VITAEbg-2wVINEGARbd-2be3wSULFURwPHILOSOPHERS SULFURwBLACK SULFURwMERCURY SUBLIMATEbn-2bo3w",
     "CINNABARwSALTwNITREwVITRIOLbd-2wROCK SALTbf-2wGOLDwSILVERwIRON OREbe-2wCROCUS OF IRONwREGU",
     "LUS OF IRONwCOPPER OREwIRON-COPPER OREwSUBLIMATE OF COPPERwCROCUS OF COPPERbm-2xOPPER ANTI",
     "MONIATEwSALT OF COPPER ANTIMONIATExUBLIMATE OF SALT OF COPPERwVERDIGRISwTIN OREwLEAD OREwA",
     "NTIMONY OREwSUBLIMATE OF ANTIMONYxALT OF ANTIMONYxUBLIMATE OF SALT OF ANTIMONYwVINEGAR OF ",
     "ANTIMONYwREGULUS OF ANTIMONYbp-2bcSbd-2be3be4wALKALIbc-2wMARCASITEwSAL-AMMONIACwARSENICwRE",
     "ALGARbd-2wAURIPIGMENTwBISMUTH OREwTARTARbc-2wQUICK LIMEwBORAXbb-2bc3wALUMwOILwSPIRITwTINCT",
     "UREwGUMwWAXwPOWDERwCALXwTUTTYwCAPUT MORTUUMwSCEPTER OF JOVEwCADUCEUSwTRIDENTwSTARRED TRIDE",
     "NTwLODESTONEwSOAPwURINEwHORSE DUNGwASHESwPOT ASHESwBRICKwPOWDERED BRICKwAMALGAMwSTRATUM SU",
     "PER STRATUMbr-2xUBLIMATIONwPRECIPITATEwDISTILLzSOLVEbe-2wPURIFYyTREFACTIONwCRUCIBLEbe-2bf3",
     "bf4bf5wALEMBICwBATH OF MARYbeVAPOURSwRETORTwHOURwNIGHTwDAY-NIGHTwMONTHwHALF DRAMbbOUNCE"]),
   (0x1f780, ["aBLACK LEFT-POINTING ISOSCELES RIGHT TRIANGLEgUP-POINTING ISOSCELES RIGHT TRIANGL",
     "EgRIGHT-POINTING ISOSCELES RIGHT TRIANGLEgDOWN-POINTING ISOSCELES RIGHT TRIANGLEgSLIGHTLY ",
     "SMALL CIRCLEaMEDIUM BOLD WHITE CIRCLEaBOLD WHITE CIRCLEaHEAVY WHITE CIRCLEaVERY HEAVY WHIT",
     "E CIRCLEaEXTREMELY HEAVY WHITE CIRCLEaWHITE CIRCLE CONTAINING BLACK SMALL CIRCLEaROUND TAR",
     "GETaBLACK TINY SQUAREgSLIGHTLY SMALL SQUAREaLIGHT WHITE SQUAREaMEDIUM WHITE SQUAREaBOLD WH",
     "ITE SQUAREaHEAVY WHITE SQUAREaVERY HEAVY WHITE SQUAREaEXTREMELY HEAVY WHITE SQUAREaWHITE S",
     "QUARE CONTAINING BLACK VERY SMALL SQUAREbeMEDIUM SQUAREaSQUARE TARGETaBLACK TINY DIAMONDgV",
     "ERY SMALL DIAMONDgMEDIUM SMALL DIAMONDaWHITE DIAMOND CONTAINING BLACK VERY SMALL DIAMONDbf",
     "MEDIUM DIAMONDaDIAMOND TARGETaBLACK TINY LOZENGEgVERY SMALL LOZENGEgMEDIUM SMALL LOZENGEaW",
     "HITE LOZENGE CONTAINING BLACK SMALL LOZENGEaTHIN GREEK CROSSaLIGHT GREEK CROSSaMEDIUM GREE",
     "K CROSSaBOLD GREEK CROSSaVERY BOLD GREEK CROSSfHEAVY GREEK CROSSaEXTREMELY HEAVY GREEK CRO",
     "SSaTHIN SALTIREaLIGHT SALTIREaMEDIUM SALTIREaBOLD SALTIREaHEAVY SALTIREaVERY HEAVY SALTIRE",
     "aEXTREMELY HEAVY SALTIREaLIGHT FIVE SPOKED ASTERISKaMEDIUM FIVE SPOKED ASTERISKaBOLD FIVE ",
     "SPOKED ASTERISKaHEAVY FIVE SPOKED ASTERISKaVERY HEAVY FIVE SPOKED ASTERISKaEXTREMELY HEAVY",
     " FIVE SPOKED ASTERISKaLIGHT SIX SPOKED ASTERISKaMEDIUM SIX SPOKED ASTERISKaBOLD SIX SPOKED",
     " ASTERISKaHEAVY SIX SPOKED ASTERISKaVERY HEAVY SIX SPOKED ASTERISKaEXTREMELY HEAVY SIX SPO",
     "KED ASTERISKaLIGHT EIGHT SPOKED ASTERISKaMEDIUM EIGHT SPOKED ASTERISKaBOLD EIGHT SPOKED AS",
     "TERISKaHEAVY EIGHT SPOKED ASTERISKaVERY HEAVY EIGHT SPOKED ASTERISKaLIGHT THREE POINTED BL",
     "ACK STARaMEDIUM THREE POINTED BLACK STARaTHREE POINTED BLACK STARaMEDIUM THREE POINTED PIN",
     "WHEEL STARaLIGHT FOUR POINTED BLACK STARaMEDIUM FOUR POINTED BLACK STARaFOUR POINTED BLACK",
     " STARaMEDIUM FOUR POINTED PINWHEEL STARaREVERSE LIGHT FOUR POINTED PINWHEEL STARaLIGHT FIV",
     "E POINTED BLACK STARaHEAVY FIVE POINTED BLACK STARaMEDIUM SIX POINTED BLACK STARaHEAVY SIX",
     " POINTED BLACK STARaSIX POINTED PINWHEEL STARaMEDIUM EIGHT POINTED BLACK STARaHEAVY EIGHT ",
     "POINTED BLACK STARaVERY HEAVY EIGHT POINTED BLACK STARaHEAVY EIGHT POINTED PINWHEEL STARaL",
     "IGHT TWELVE POINTED BLACK STARaHEAVY TWELVE POINTED BLACK STARvPINWHEEL STARaCIRCLED TRIAN",
     "GLEaNEGATIVE CIRCLED TRIANGLEaCIRCLED SQUAREaNEGATIVE CIRCLED SQUARE"]),
   (0x1f7e0, ["aLARGE ORANGE CIRCLEgYELLOW CIRCLEgGREEN CIRCLEgPURPLE CIRCLEgBROWN CIRCLEgRED SQ",
     "UAREgBLUE SQUAREgORANGE SQUAREgYELLOW SQUAREgGREEN SQUAREgPURPLE SQUAREgBROWN SQUARE"]),
   (0x1f7f0, ["aHEAVY EQUALS SIGN"]),
   (0x1f800, ["aLEFTWARDS ARROW WITH SMALL TRIANGLE ARROWHEADaUPWARDS ARROW WITH SMALL TRIANGLE ",
     "ARROWHEADaRIGHTWARDS ARROW WITH SMALL TRIANGLE ARROWHEADaDOWNWARDS ARROW WITH SMALL TRIANG",
     "LE ARROWHEADaLEFTWARDS ARROW WITH MEDIUM TRIANGLE ARROWHEADaUPWARDS ARROW WITH MEDIUM TRIA",
     "NGLE ARROWHEADaRIGHTWARDS ARROW WITH MEDIUM TRIANGLE ARROWHEADaDOWNWARDS ARROW WITH MEDIUM",
     " TRIANGLE ARROWHEADaLEFTWARDS ARROW WITH LARGE TRIANGLE ARROWHEADaUPWARDS ARROW WITH LARGE",
     " TRIANGLE ARROWHEADaRIGHTWARDS ARROW WITH LARGE TRIANGLE ARROWHEADaDOWNWARDS ARROW WITH LA",
     "RGE TRIANGLE ARROWHEAD"]),
   (0x1f810, ["aLEFTWARDS ARROW WITH SMALL EQUILATERAL ARROWHEADaUPWARDS ARROW WITH SMALL EQUILA",
     "TERAL ARROWHEADaRIGHTWARDS ARROW WITH SMALL EQUILATERAL ARROWHEADaDOWNWARDS ARROW WITH SMA",
     "LL EQUILATERAL ARROWHEADaLEFTWARDS ARROW WITH EQUILATERAL ARROWHEADaUPWARDS ARROW WITH EQU",
     "ILATERAL ARROWHEADaRIGHTWARDS ARROW WITH EQUILATERAL ARROWHEADaDOWNWARDS ARROW WITH EQUILA",
     "TERAL ARROWHEADaHEAVY LEFTWARDS ARROW WITH EQUILATERAL ARROWHEADgUPWARDS ARROW WITH EQUILA",
     "TERAL ARROWHEADgRIGHTWARDS ARROW WITH EQUILATERAL ARROWHEADgDOWNWARDS ARROW WITH EQUILATER",
     "AL ARROWHEADgLEFTWARDS ARROW WITH LARGE EQUILATERAL ARROWHEADgUPWARDS ARROW WITH LARGE EQU",
     "ILATERAL ARROWHEADgRIGHTWARDS ARROW WITH LARGE EQUILATERAL ARROWHEADgDOWNWARDS ARROW WITH ",
     "LARGE EQUILATERAL ARROWHEADaLEFTWARDS TRIANGLE-HEADED ARROW WITH NARROW SHAFTaUPWARDS TRIA",
     "NGLE-HEADED ARROW WITH NARROW SHAFTaRIGHTWARDS TRIANGLE-HEADED ARROW WITH NARROW SHAFTaDOW",
     "NWARDS TRIANGLE-HEADED ARROW WITH NARROW SHAFTaLEFTWARDS TRIANGLE-HEADED ARROW WITH MEDIUM",
     " SHAFTaUPWARDS TRIANGLE-HEADED ARROW WITH MEDIUM SHAFTaRIGHTWARDS TRIANGLE-HEADED ARROW WI",
     "TH MEDIUM SHAFTaDOWNWARDS TRIANGLE-HEADED ARROW WITH MEDIUM SHAFTaLEFTWARDS TRIANGLE-HEADE",
     "D ARROW WITH BOLD SHAFTaUPWARDS TRIANGLE-HEADED ARROW WITH BOLD SHAFTaRIGHTWARDS TRIANGLE-",
     "HEADED ARROW WITH BOLD SHAFTaDOWNWARDS TRIANGLE-HEADED ARROW WITH BOLD SHAFTaLEFTWARDS TRI",
     "ANGLE-HEADED ARROW WITH HEAVY SHAFTaUPWARDS TRIANGLE-HEADED ARROW WITH HEAVY SHAFTaRIGHTWA",
     "RDS TRIANGLE-HEADED ARROW WITH HEAVY SHAFTaDOWNWARDS TRIANGLE-HEADED ARROW WITH HEAVY SHAF",
     "TaLEFTWARDS TRIANGLE-HEADED ARROW WITH VERY HEAVY SHAFTaUPWARDS TRIANGLE-HEADED ARROW WITH",
     " VERY HEAVY SHAFTaRIGHTWARDS TRIANGLE-HEADED ARROW WITH VERY HEAVY SHAFTaDOWNWARDS TRIANGL",
     "E-HEADED ARROW WITH VERY HEAVY SHAFTaLEFTWARDS FINGER-POST ARROWaUPWARDS FINGER-POST ARROW",
     "aRIGHTWARDS FINGER-POST ARROWaDOWNWARDS FINGER-POST ARROWaLEFTWARDS SQUARED ARROWaUPWARDS ",
     "SQUARED ARROWaRIGHTWARDS SQUARED ARROWaDOWNWARDS SQUARED ARROWaLEFTWARDS COMPRESSED ARROWa",
     "UPWARDS COMPRESSED ARROWaRIGHTWARDS COMPRESSED ARROWaDOWNWARDS COMPRESSED ARROWaLEFTWARDS ",
     "HEAVY COMPRESSED ARROWaUPWARDS HEAVY COMPRESSED ARROWaRIGHTWARDS HEAVY COMPRESSED ARROWaDO",
     "WNWARDS HEAVY COMPRESSED ARROWaLEFTWARDS HEAVY ARROWaUPWARDS HEAVY ARROWaRIGHTWARDS HEAVY ",
     "ARROWaDOWNWARDS HEAVY ARROW"]),
   (0x1f850, ["aLEFTWARDS SANS-SERIF ARROWaUPWARDS SANS-SERIF ARROWaRIGHTWARDS SANS-SERIF ARROWa",
     "DOWNWARDS SANS-SERIF ARROWaNORTH WEST SANS-SERIF ARROWgEAST SANS-SERIF ARROWaSOUTH EAST SA",
     "NS-SERIF ARROWgWEST SANS-SERIF ARROWaLEFT RIGHT SANS-SERIF ARROWaUP DOWN SANS-SERIF ARROW"]),
   (0x1f860, ["aWIDE-HEADED LEFTWARDS LIGHT BARB ARROWmUPWARDS LIGHT BARB ARROWmRIGHTWARDS LIGHT",
     " BARB ARROWmDOWNWARDS LIGHT BARB ARROWmNORTH WEST LIGHT BARB ARROWsEAST LIGHT BARB ARROWmS",
     "OUTH EAST LIGHT BARB ARROWsWEST LIGHT BARB ARROWmLEFTWARDS BARB ARROWmUPWARDS BARB ARROWmR",
     "IGHTWARDS BARB ARROWmDOWNWARDS BARB ARROWmNORTH WEST BARB ARROWsEAST BARB ARROWmSOUTH EAST",
     " BARB ARROWsWEST BARB ARROWmLEFTWARDS MEDIUM BARB ARROWmUPWARDS MEDIUM BARB ARROWmRIGHTWAR",
     "DS MEDIUM BARB ARROWmDOWNWARDS MEDIUM BARB ARROWmNORTH WEST MEDIUM BARB ARROWsEAST MEDIUM ",
     "BARB ARROWmSOUTH EAST MEDIUM BARB ARROWsWEST MEDIUM BARB ARROWmLEFTWARDS HEAVY BARB ARROWm",
     "UPWARDS HEAVY BARB ARROWmRIGHTWARDS HEAVY BARB ARROWmDOWNWARDS HEAVY BARB ARROWmNORTH WEST",
     " HEAVY BARB ARROWsEAST HEAVY BARB ARROWmSOUTH EAST HEAVY BARB ARROWsWEST HEAVY BARB ARROWm",
     "LEFTWARDS VERY HEAVY BARB ARROWmUPWARDS VERY HEAVY BARB ARROWmRIGHTWARDS VERY HEAVY BARB A",
     "RROWmDOWNWARDS VERY HEAVY BARB ARROWmNORTH WEST VERY HEAVY BARB ARROWsEAST VERY HEAVY BARB",
     " ARROWmSOUTH EAST VERY HEAVY BARB ARROWsWEST VERY HEAVY BARB ARROW"]),
   (0x1f890, ["aLEFTWARDS TRIANGLE ARROWHEADaUPWARDS TRIANGLE ARROWHEADaRIGHTWARDS TRIANGLE ARRO",
     "WHEADaDOWNWARDS TRIANGLE ARROWHEADaLEFTWARDS WHITE ARROW WITHIN TRIANGLE ARROWHEADaUPWARDS",
     " WHITE ARROW WITHIN TRIANGLE ARROWHEADaRIGHTWARDS WHITE ARROW WITHIN TRIANGLE ARROWHEADaDO",
     "WNWARDS WHITE ARROW WITHIN TRIANGLE ARROWHEADaLEFTWARDS ARROW WITH NOTCHED TAILaUPWARDS AR",
     "ROW WITH NOTCHED TAILaRIGHTWARDS ARROW WITH NOTCHED TAILaDOWNWARDS ARROW WITH NOTCHED TAIL",
     "aHEAVY ARROW SHAFT WIDTH ONEyTWO THIRDSyONE HALFbcTHIRDaLEFTWARDS BOTTOM-SHADED WHITE ARRO",
     "WaRIGHTWARDS BOTTOM SHADED WHITE ARROWaLEFTWARDS TOP SHADED WHITE ARROWaRIGHTWARDS TOP SHA",
     "DED WHITE ARROWaLEFTWARDS LEFT-SHADED WHITE ARROWaRIGHTWARDS RIGHT-SHADED WHITE ARROWaLEFT",
     "WARDS RIGHT-SHADED WHITE ARROWaRIGHTWARDS LEFT-SHADED WHITE ARROWaLEFTWARDS BACK-TILTED SH",
     "ADOWED WHITE ARROWaRIGHTWARDS BACK-TILTED SHADOWED WHITE ARROWaLEFTWARDS FRONT-TILTED SHAD",
     "OWED WHITE ARROWaRIGHTWARDS FRONT-TILTED SHADOWED WHITE ARROWaWHITE ARROW SHAFT WIDTH ONEy",
     "TWO THIRDS"]),
   (0x1f8b0, ["aARROW POINTING UPWARDS THEN NORTH WESTpRIGHTWARDS THEN CURVING SOUTH WEST"]),
   (0x1f900, ["aCIRCLED CROSS FORMEE WITH FOUR DOTSbaTWO DOTStEaLEFT HALF CIRCLE WITH FOUR DOTSw",
     "THREE DOTSxWO DOTSwDOTpEaDOWNWARD FACING HOOKqNOTCHED HOOKqHOOK WITH DOTqNOTCHED HOOK WITH",
     " DOTaPINCHED FINGERSaWHITE HEARTaBROWN HEARTaPINCHING HANDaZIPPER-MOUTH FACEaMONEY-MOUTH F",
     "ACEaFACE WITH THERMOMETERaNERD FACEaTHINKING FACEaFACE WITH HEAD-BANDAGEaROBOT FACEaHUGGIN",
     "G FACEaSIGN OF THE HORNSaCALL ME HANDaRAISED BACK OF HANDaLEFT-FACING FISTaRIGHT-FACING FI",
     "STaHANDSHAKEe WITH INDEX AND MIDDLE FINGERS CROSSEDaI LOVE YOU HAND SIGNaFACE WITH COWBOY ",
     "HATaCLOWN FACEaNAUSEATED FACEaROLLING ON THE FLOOR LAUGHINGaDROOLING FACEaLYING FACEaFACE ",
     "PALMaSNEEZING FACEaFACE WITH ONE EYEBROW RAISEDaGRINNING FACE WITH STAR EYEStONE LARGE AND",
     " ONE SMALL EYEaFACE WITH FINGER COVERING CLOSED LIPSaSERIOUS FACE WITH SYMBOLS COVERING MO",
     "UTHbMILING FACE WITH SMILING EYES AND HAND COVERING MOUTHaFACE WITH OPEN MOUTH VOMITINGaSH",
     "OCKED FACE WITH EXPLODING HEADaPREGNANT WOMANaBREAST-FEEDINGaPALMS UP TOGETHERaSELFIEaPRIN",
     "CEaMAN IN TUXEDObOTHER CHRISTMASaSHRUGaPERSON DOING CARTWHEELaJUGGLINGaFENCERaMODERN PENTA",
     "THLONaWRESTLERSbATER POLOaHANDBALLaDIVING MASKaWILTED FLOWERaDRUM WITH DRUMSTICKSaCLINKING",
     " GLASSESaTUMBLER GLASSaSPOONaGOAL NETaRIFLEaFIRST PLACE MEDALaSECOND PLACE MEDALaTHIRD PLA",
     "CE MEDALaBOXING GLOVEaMARTIAL ARTS UNIFORMaCURLING STONEaLACROSSE STICK AND BALLaSOFTBALLa",
     "FLYING DISCaCROISSANTaAVOCADOaCUCUMBERaBACONaPOTATOaCARROTaBAGUETTE BREADaGREEN SALADaSHAL",
     "LOW PAN OF FOODbTUFFED FLATBREADaEGGaGLASS OF MILKaPEANUTSaKIWIFRUITaPANCAKESaDUMPLINGaFOR",
     "TUNE COOKIEaTAKEOUT BOXaCHOPSTICKSaBOWL WITH SPOONaCUP WITH STRAWbOCONUTaBROCCOLIaPIEbRETZ",
     "ELaCUT OF MEATaSANDWICHaCANNED FOODaLEAFY GREENaMANGObOON CAKEaBAGELaSMILING FACE WITH SMI",
     "LING EYES AND THREE HEARTSaYAWNING FACEaSMILING FACE WITH TEARaFACE WITH PARTY HORN AND PA",
     "RTY HATkUNEVEN EYES AND WAVY MOUTHaOVERHEATED FACEaFREEZING FACEaNINJAaDISGUISED FACEaFACE",
     " HOLDING BACK TEARSfWITH PLEADING EYESaSARIaLAB COATaGOGGLESaHIKING BOOTaFLAT SHOEaCRABaLI",
     "ON FACEaSCORPIONaTURKEYaUNICORN FACEaEAGLEaDUCKaBATaSHARKaOWLaFOX FACEaBUTTERFLYaDEERaGORI",
     "LLAaLIZARDaRHINOCEROSaSHRIMPbQUIDaGIRAFFE FACEaZEBRA FACEaHEDGEHOGaSAUROPODaT-REXaCRICKETa",
     "KANGAROOaLLAMAaPEACOCKaHIPPOPOTAMUSaPARROTaRACCOONaLOBSTERaMOSQUITObICROBEaBADGERaSWANaMAM",
     "MOTHaDODOaSLOTHaOTTERbRANGUTANaSKUNKaFLAMINGOaOYSTERaBEAVERbISONaSEALaGUIDE DOGaPROBING CA",
     "NEaEMOJI COMPONENT RED HAIRqCURLY HAIRqBALDqWHITE HAIRaBONEaLEGaFOOTaTOOTHaSUPERHEROfVILLA",
     "INbAFETY VESTaEAR WITH HEARING AIDaMOTORIZED WHEELCHAIRbANUAL WHEELCHAIRbECHANICAL ARMlLEG",
     "aCHEESE WEDGEbUPCAKEaSALT SHAKERaBEVERAGE BOXaGARLICaONIONaFALAFELaWAFFLEaBUTTERaMATE DRIN",
     "KaICE CUBEaBUBBLE TEAaTROLLaSTANDING PERSONaKNEELING PERSONaDEAF PERSONaFACE WITH MONOCLEa",
     "ADULTaCHILDaOLDER ADULTaBEARDED PERSONaPERSON WITH HEADSCARFhIN STEAMY ROOMhCLIMBINGhIN LO",
     "TUS POSITIONaMAGEaFAIRYaVAMPIREaMERPERSONaELFaGENIEaZOMBIEaBRAINaORANGE HEARTaBILLED CAPaS",
     "CARFaGLOVESaCOATaSOCKSaRED GIFT ENVELOPEaFIRECRACKERaJIGSAW PUZZLE PIECEaTEST TUBEaPETRI D",
     "ISHaDNA DOUBLE HELIXaCOMPASSaABACUSaFIRE EXTINGUISHERaTOOLBOXaBRICKaMAGNETaLUGGAGEbOTION B",
     "OTTLEaSPOOL OF THREADaBALL OF YARNaSAFETY PINaTEDDY BEARaBROOMbASKETaROLL OF PAPERaBAR OF ",
     "SOAPaSPONGEaRECEIPTaNAZAR AMULETbEUTRAL CHESS KINGoQUEENoROOKoBISHOPoKNIGHToPAWNaWHITE CHE",
     "SS KNIGHT ROTATED FORTY-FIVE DEGREESaBLACK CHESS KNIGHT ROTATED FORTY-FIVE DEGREESaNEUTRAL",
     " CHESS KNIGHT ROTATED FORTY-FIVE DEGREESaWHITE CHESS KING ROTATED NINETY DEGREESmQUEEN ROT",
     "ATED NINETY DEGREESmROOK ROTATED NINETY DEGREESmBISHOP ROTATED NINETY DEGREESmKNIGHT ROTAT",
     "ED NINETY DEGREESmPAWN ROTATED NINETY DEGREESaBLACK CHESS KING ROTATED NINETY DEGREESmQUEE",
     "N ROTATED NINETY DEGREESmROOK ROTATED NINETY DEGREESmBISHOP ROTATED NINETY DEGREESmKNIGHT ",
     "ROTATED NINETY DEGREESmPAWN ROTATED NINETY DEGREESaNEUTRAL CHESS KING ROTATED NINETY DEGRE",
     "ESoQUEEN ROTATED NINETY DEGREESoROOK ROTATED NINETY DEGREESoBISHOP ROTATED NINETY DEGREESo",
     "KNIGHT ROTATED NINETY DEGREESoPAWN ROTATED NINETY DEGREESaWHITE CHESS KNIGHT ROTATED ONE H",
     "UNDRED THIRTY-FIVE DEGREESaBLACK CHESS KNIGHT ROTATED ONE HUNDRED THIRTY-FIVE DEGREESaNEUT",
     "RAL CHESS KNIGHT ROTATED ONE HUNDRED THIRTY-FIVE DEGREESaWHITE CHESS TURNED KINGtQUEENtROO",
     "KtBISHOPtKNIGHTtPAWNaBLACK CHESS TURNED KINGtQUEENtROOKtBISHOPtKNIGHTtPAWNaNEUTRAL CHESS T",
     "URNED KINGvQUEENvROOKvBISHOPvKNIGHTvPAWNaWHITE CHESS KNIGHT ROTATED TWO HUNDRED TWENTY-FIV",
     "E DEGREESaBLACK CHESS KNIGHT ROTATED TWO HUNDRED TWENTY-FIVE DEGREESaNEUTRAL CHESS KNIGHT ",
     "ROTATED TWO HUNDRED TWENTY-FIVE DEGREESaWHITE CHESS KING ROTATED TWO HUNDRED SEVENTY DEGRE",
     "ESmQUEEN ROTATED TWO HUNDRED SEVENTY DEGREESmROOK ROTATED TWO HUNDRED SEVENTY DEGREESmBISH",
     "OP ROTATED TWO HUNDRED SEVENTY DEGREESmKNIGHT ROTATED TWO HUNDRED SEVENTY DEGREESmPAWN ROT",
     "ATED TWO HUNDRED SEVENTY DEGREESaBLACK CHESS KING ROTATED TWO HUNDRED SEVENTY DEGREESmQUEE",
     "N ROTATED TWO HUNDRED SEVENTY DEGREESmROOK ROTATED TWO HUNDRED SEVENTY DEGREESmBISHOP ROTA",
     "TED TWO HUNDRED SEVENTY DEGREESmKNIGHT ROTATED TWO HUNDRED SEVENTY DEGREESmPAWN ROTATED TW",
     "O HUNDRED SEVENTY DEGREESaNEUTRAL CHESS KING ROTATED TWO HUNDRED SEVENTY DEGREESoQUEEN ROT",
     "ATED TWO HUNDRED SEVENTY DEGREESoROOK ROTATED TWO HUNDRED SEVENTY DEGREESoBISHOP ROTATED T",
     "WO HUNDRED SEVENTY DEGREESoKNIGHT ROTATED TWO HUNDRED SEVENTY DEGREESoPAWN ROTATED TWO HUN",
     "DRED SEVENTY DEGREESaWHITE CHESS KNIGHT ROTATED THREE HUNDRED FIFTEEN DEGREESaBLACK CHESS ",
     "KNIGHT ROTATED THREE HUNDRED FIFTEEN DEGREESaNEUTRAL CHESS KNIGHT ROTATED THREE HUNDRED FI",
     "FTEEN DEGREESaWHITE CHESS EQUIHOPPERaBLACK CHESS EQUIHOPPERaNEUTRAL CHESS EQUIHOPPERaWHITE",
     " CHESS EQUIHOPPER ROTATED NINETY DEGREESaBLACK CHESS EQUIHOPPER ROTATED NINETY DEGREESaNEU",
     "TRAL CHESS EQUIHOPPER ROTATED NINETY DEGREESaWHITE CHESS KNIGHT-QUEENtROOKtBISHOPaBLACK CH",
     "ESS KNIGHT-QUEENtROOKtBISHOP"]),
   (0x1fa60, ["aXIANGQI RED GENERALmMANDARINmELEPHANTmHORSEmCHARIOTnANNONmSOLDIERiBLACK GENERALo",
     "MANDARINoELEPHANToHORSEoCHARIOTpANNONoSOLDIER"]),
   (0x1fa70, ["aBALLET SHOESaONE-PIECE SWIMSUITaBRIEFSaSHORTSaTHONG SANDAL"]),
   (0x1fa78, ["aDROP OF BLOODaADHESIVE BANDAGEaSTETHOSCOPEaX-RAYaCRUTCH"]),
   (0x1fa80, ["aYO-YOaKITEaPARACHUTEaBOOMERANGaMAGIC WANDaPINATAaNESTING DOLLS"]),
   (0x1fa90, ["aRINGED PLANETaCHAIRaRAZORaAXEaDIYA LAMPaBANJOaMILITARY HELMETaACCORDIONaLONG DRU",
     "MaCOINbARPENTRY SAWaSCREWDRIVERaLADDERaHOOKaMIRRORaWINDOWaPLUNGERaSEWING NEEDLEaKNOTaBUCKE",
     "TaMOUSE TRAPaTOOTHBRUSHaHEADSTONEaPLACARDaROCKaMIRROR BALLaIDENTIFICATION CARDaLOW BATTERY",
     "aHAMSA"]),
   (0x1fab0, ["aFLYaWORMaBEETLEaCOCKROACHaPOTTED PLANTaWOODaFEATHERaLOTUSaCORALaEMPTY NESTaNEST ",
     "WITH EGGS"]),
   (0x1fac0, ["aANATOMICAL HEARTaLUNGSaPEOPLE HUGGINGbREGNANT MANjPERSONbERSON WITH CROWN"]),
   (0x1fad0, ["aBLUEBERRIESbELL PEPPERaOLIVEaFLATBREADaTAMALEaFONDUEaTEAPOTaPOURING LIQUIDaBEANS",
     "aJAR"]),
   (0x1fae0, ["aMELTING FACEaSALUTING FACEaFACE WITH OPEN EYES AND HAND OVER MOUTHkPEEKING EYEkD",
     "IAGONAL MOUTHaDOTTED LINE FACEaBITING LIPbUBBLES"]),
   (0x1faf0, ["aHAND WITH INDEX FINGER AND THUMB CROSSEDaRIGHTWARDS HANDaLEFTWARDS HANDaPALM DOW",
     "N HANDfUP HANDaINDEX POINTING AT THE VIEWERaHEART HANDS"]),
   (0x1fb00, ["aBLOCK SEXTANT-1o2o12o3o13o23o123o4o14o24o124o34o134o234o1234o5o15o25o125o35o235o",
     "1235o45o145o245o1245o345o1345o2345o12345o6o16o26o126o36o136o236o1236o46o146p246o346o1346o2",
     "346o12346o56o156o256o1256o356o1356o2356o12356o456o1456o2456o12456o3456o13456o23456aLOWER L",
     "EFT BLOCK DIAGONAL LOWER MIDDLE LEFT TO LOWER CENTREcbRIGHTbaUPPER MIDDLE LEFT TO LOWER CE",
     "NTREcbRIGHTbgLEFT TO LOWER CENTREgRIGHT BLOCK DIAGONAL UPPER MIDDLE LEFT TO UPPER CENTREcc",
     "RIGHTbbLOWER MIDDLE LEFT TO UPPER CENTREccRIGHTbhLEFT TO UPPER CENTREbhMIDDLE LEFT TO UPPE",
     "R MIDDLE RIGHTbhCENTRE TO LOWER MIDDLE RIGHTbhLEFT TO LOWER MIDDLE RIGHTbhCENTRE TO UPPER ",
     "MIDDLE RIGHTbhLEFT TO UPPER MIDDLE RIGHTbhCENTRE TO UPPER RIGHTgLEFT BLOCK DIAGONAL UPPER ",
     "CENTRE TO UPPER MIDDLE RIGHTbgLEFT TO UPPER MIDDLE RIGHTbgCENTRE TO LOWER MIDDLE RIGHTbgLE",
     "FT TO LOWER MIDDLE RIGHTbgCENTRE TO LOWER RIGHTbgMIDDLE LEFT TO LOWER MIDDLE RIGHTaUPPER R",
     "IGHT BLOCK DIAGONAL LOWER MIDDLE LEFT TO LOWER CENTREccRIGHTbbUPPER MIDDLE LEFT TO LOWER C",
     "ENTREccRIGHTbhLEFT TO LOWER CENTREgLEFT BLOCK DIAGONAL UPPER MIDDLE LEFT TO UPPER CENTREcb",
     "RIGHTbaLOWER MIDDLE LEFT TO UPPER CENTREcbRIGHTbgLEFT TO UPPER CENTREbgMIDDLE LEFT TO UPPE",
     "R MIDDLE RIGHTbgCENTRE TO LOWER MIDDLE RIGHTbgLEFT TO LOWER MIDDLE RIGHTbgCENTRE TO UPPER ",
     "MIDDLE RIGHTbgLEFT TO UPPER MIDDLE RIGHTbgCENTRE TO UPPER RIGHTgRIGHT BLOCK DIAGONAL UPPER",
     " CENTRE TO UPPER MIDDLE RIGHTbhLEFT TO UPPER MIDDLE RIGHTbhCENTRE TO LOWER MIDDLE RIGHTbhL",
     "EFT TO LOWER MIDDLE RIGHTbhCENTRE TO LOWER RIGHTbhMIDDLE LEFT TO LOWER MIDDLE RIGHTgAND RI",
     "GHT AND LOWER TRIANGULAR THREE QUARTERS BLOCKaLEFT AND LOWER AND RIGHT TRIANGULAR THREE QU",
     "ARTERS BLOCKaUPPER AND LEFT AND LOWER TRIANGULAR THREE QUARTERS BLOCKaLEFT AND UPPER AND R",
     "IGHT TRIANGULAR THREE QUARTERS BLOCKfTRIANGULAR ONE QUARTER BLOCKaUPPER TRIANGULAR ONE QUA",
     "RTER BLOCKaRIGHT TRIANGULAR ONE QUARTER BLOCKaLOWER TRIANGULAR ONE QUARTER BLOCKaVERTICAL ",
     "ONE EIGHTH BLOCK-2ba3ba4ba5ba6ba7aHORIZONTAL ONE EIGHTH BLOCK-2bc3bc4bc5bc6bc7aLEFT AND LO",
     "WER ONE EIGHTH BLOCKjUPPER ONE EIGHTH BLOCKaRIGHT AND UPPER ONE EIGHTH BLOCKkLOWER ONE EIG",
     "HTH BLOCKaUPPER AND LOWER ONE EIGHTH BLOCKaHORIZONTAL ONE EIGHTH BLOCK-1358aUPPER ONE QUAR",
     "TER BLOCKgTHREE EIGHTHS BLOCKgFIVE EIGHTHS BLOCKgTHREE QUARTERS BLOCKgSEVEN EIGHTHS BLOCKa",
     "RIGHT ONE QUARTER BLOCKgTHREE EIGHTHS BLOCKgFIVE EIGHTHS BLOCKgTHREE QUARTERS BLOCKgSEVEN ",
     "EIGHTHS BLOCKaLEFT HALF MEDIUM SHADEaRIGHT HALF MEDIUM SHADEaUPPER HALF MEDIUM SHADEaLOWER",
     " HALF MEDIUM SHADEaINVERSE MEDIUM SHADEaUPPER HALF BLOCK AND LOWER HALF INVERSE MEDIUM SHA",
     "DElINVERSE MEDIUM SHADE AND LOWER HALF BLOCK"]),
   (0x1fb94, ["aLEFT HALF INVERSE MEDIUM SHADE AND RIGHT HALF BLOCKaCHECKER BOARD FILLaINVERSE C",
     "HECKER BOARD FILLaHEAVY HORIZONTAL FILLaUPPER LEFT TO LOWER RIGHT FILLgRIGHT TO LOWER LEFT",
     " FILLgAND LOWER TRIANGULAR HALF BLOCKaLEFT AND RIGHT TRIANGULAR HALF BLOCKaUPPER LEFT TRIA",
     "NGULAR MEDIUM SHADEgRIGHT TRIANGULAR MEDIUM SHADEaLOWER RIGHT TRIANGULAR MEDIUM SHADEgLEFT",
     " TRIANGULAR MEDIUM SHADEaBOX DRAWINGS LIGHT DIAGONAL UPPER CENTRE TO MIDDLE LEFTbzRIGHTbcM",
     "IDDLE LEFT TO LOWER CENTREbjRIGHT TO LOWER CENTREbcUPPER CENTRE TO MIDDLE LEFT TO LOWER CE",
     "NTREbzRIGHT TO LOWER CENTREbcMIDDLE LEFT TO LOWER CENTRE TO MIDDLE RIGHTbrUPPER CENTRE TO ",
     "MIDDLE RIGHTbcUPPER CENTRE TO MIDDLE LEFT AND MIDDLE RIGHT TO LOWER CENTREbzRIGHT AND MIDD",
     "LE LEFT TO LOWER CENTREcfTO LOWER CENTRE TO MIDDLE LEFTbzLEFT TO LOWER CENTRE TO MIDDLE RI",
     "GHTbcMIDDLE LEFT TO UPPER CENTRE TO MIDDLE RIGHT TO LOWER CENTREbjRIGHT TO UPPER CENTRE TO",
     " MIDDLE LEFT TO LOWER CENTREbcDIAMONDtHORIZONTAL WITH VERTICAL STROKEaARROWHEAD-SHAPED POI",
     "NTERaINVERSE CHECK MARKaLEFT HALF RUNNING MANaRIGHT HALF RUNNING MANaINVERSE DOWNWARDS ARR",
     "OW WITH TIP LEFTWARDSaLEFTWARDS ARROW AND UPPER AND LOWER ONE EIGHTH BLOCKaRIGHTWARDS ARRO",
     "W AND UPPER AND LOWER ONE EIGHTH BLOCKaDOWNWARDS ARROW AND RIGHT ONE EIGHTH BLOCKaUPWARDS ",
     "ARROW AND RIGHT ONE EIGHTH BLOCKaLEFT HALF FOLDERaRIGHT HALF FOLDERaVOIDED GREEK CROSSaRIG",
     "HT OPEN SQUARED DOTaNEGATIVE DIAGONAL CROSSsMIDDLE RIGHT TO LOWER CENTREsDIAMONDaWHITE HEA",
     "VY SALTIRE WITH ROUNDED CORNERSaLEFT THIRD WHITE RIGHT POINTING INDEXaMIDDLE THIRD WHITE R",
     "IGHT POINTING INDEXaRIGHT THIRD WHITE RIGHT POINTING INDEXaNEGATIVE SQUARED QUESTION MARKa",
     "STICK FIGUREm WITH ARMS RAISEDnLEANING LEFTvRIGHTnWITH DRESSaWHITE UP-POINTING CHEVRON"]),
   (0x1fbf0, ["aSEGMENTED DIGIT ZEROqONEqTWOrHREEqFOURrIVEqSIXrEVENqEIGHTqNINE"]),
   (0x2f800, ["aCJK COMPATIBILITY IDEOGRAPH-2F800bg1bg2bg3bg4bg5bg6bg7bg8bg9bgAbgBbgCbgDbgEbgFbf",
     "10bg1bg2bg3bg4bg5bg6bg7bg8bg9bgAbgBbgCbgDbgEbgFbf20bg1bg2bg3bg4bg5bg6bg7bg8bg9bgAbgBbgCbgD",
     "bgEbgFbf30bg1bg2bg3bg4bg5bg6bg7bg8bg9bgAbgBbgCbgDbgEbgFbf40bg1bg2bg3bg4bg5bg6bg7bg8bg9bgAb",
     "gBbgCbgDbgEbgFbf50bg1bg2bg3bg4bg5bg6bg7bg8bg9bgAbgBbgCbgDbgEbgFbf60bg1bg2bg3bg4bg5bg6bg7bg",
     "8bg9bgAbgBbgCbgDbgEbgFbf70bg1bg2bg3bg4bg5bg6bg7bg8bg9bgAbgBbgCbgDbgEbgFbf80bg1bg2bg3bg4bg5",
     "bg6bg7bg8bg9bgAbgBbgCbgDbgEbgFbf90bg1bg2bg3bg4bg5bg6bg7bg8bg9bgAbgBbgCbgDbgEbgFbfA0bg1bg2b",
     "g3bg4bg5bg6bg7bg8bg9bgAbgBbgCbgDbgEbgFbfB0bg1bg2bg3bg4bg5bg6bg7bg8bg9bgAbgBbgCbgDbgEbgFbfC",
     "0bg1bg2bg3bg4bg5bg6bg7bg8bg9bgAbgBbgCbgDbgEbgFbfD0bg1bg2bg3bg4bg5bg6bg7bg8bg9bgAbgBbgCbgDb",
     "gEbgFbfE0bg1bg2bg3bg4bg5bg6bg7bg8bg9bgAbgBbgCbgDbgEbgFbfF0bg1bg2bg3bg4bg5bg6bg7bg8bg9bgAbg",
     "BbgCbgDbgEbgFbe900bg1bg2bg3bg4bg5bg6bg7bg8bg9bgAbgBbgCbgDbgEbgFbf10bg1bg2bg3bg4bg5bg6bg7bg",
     "8bg9bgAbgBbgCbgDbgEbgFbf20bg1bg2bg3bg4bg5bg6bg7bg8bg9bgAbgBbgCbgDbgEbgFbf30bg1bg2bg3bg4bg5",
     "bg6bg7bg8bg9bgAbgBbgCbgDbgEbgFbf40bg1bg2bg3bg4bg5bg6bg7bg8bg9bgAbgBbgCbgDbgEbgFbf50bg1bg2b",
     "g3bg4bg5bg6bg7bg8bg9bgAbgBbgCbgDbgEbgFbf60bg1bg2bg3bg4bg5bg6bg7bg8bg9bgAbgBbgCbgDbgEbgFbf7",
     "0bg1bg2bg3bg4bg5bg6bg7bg8bg9bgAbgBbgCbgDbgEbgFbf80bg1bg2bg3bg4bg5bg6bg7bg8bg9bgAbgBbgCbgDb",
     "gEbgFbf90bg1bg2bg3bg4bg5bg6bg7bg8bg9bgAbgBbgCbgDbgEbgFbfA0bg1bg2bg3bg4bg5bg6bg7bg8bg9bgAbg",
     "BbgCbgDbgEbgFbfB0bg1bg2bg3bg4bg5bg6bg7bg8bg9bgAbgBbgCbgDbgEbgFbfC0bg1bg2bg3bg4bg5bg6bg7bg8",
     "bg9bgAbgBbgCbgDbgEbgFbfD0bg1bg2bg3bg4bg5bg6bg7bg8bg9bgAbgBbgCbgDbgEbgFbfE0bg1bg2bg3bg4bg5b",
     "g6bg7bg8bg9bgAbgBbgCbgDbgEbgFbfF0bg1bg2bg3bg4bg5bg6bg7bg8bg9bgAbgBbgCbgDbgEbgFbeA00bg1bg2b",
     "g3bg4bg5bg6bg7bg8bg9bgAbgBbgCbgDbgEbgFbf10bg1bg2bg3bg4bg5bg6bg7bg8bg9bgAbgBbgCbgD"]),
   (0xe0001, ["aLANGUAGE TAG"]),
   (0xe0020, ["aTAG SPACEeEXCLAMATION MARKeQUOTATION MARKeNUMBER SIGNeDOLLAR SIGNePERCENT SIGNeA",
     "MPERSANDfPOSTROPHEeLEFT PARENTHESISeRIGHT PARENTHESISeASTERISKePLUS SIGNeCOMMAeHYPHEN-MINU",
     "SeFULL STOPeSOLIDUSeDIGIT ZEROkONEkTWOlHREEkFOURlIVEkSIXlEVENkEIGHTkNINEeCOLONeSEMICOLONeL",
     "ESS-THAN SIGNeEQUALS SIGNeGREATER-THAN SIGNeQUESTION MARKeCOMMERCIAL ATeLATIN CAPITAL LETT",
     "ER AzBzCzDzEzFzGzHzIzJzKzLzMzNzOzPzQzRzSzTzUzVzWzXzYzZfEFT SQUARE BRACKETeREVERSE SOLIDUSf",
     "IGHT SQUARE BRACKETeCIRCUMFLEX ACCENTeLOW LINEeGRAVE ACCENTeLATIN SMALL LETTER AxBxCxDxExF",
     "xGxHxIxJxKxLxMxNxOxPxQxRxSxTxUxVxWxXxYxZfEFT CURLY BRACKETeVERTICAL LINEeRIGHT CURLY BRACK",
     "ETeTILDEaCANCEL TAG"]),
   (0xe0100, ["aVARIATION SELECTOR-17u8u9t20u1u2u3u4u5u6u7u8u9t30u1u2u3u4u5u6u7u8u9t40u1u2u3u4u5",
     "u6u7u8u9t50u1u2u3u4u5u6u7u8u9t60u1u2u3u4u5u6u7u8u9t70u1u2u3u4u5u6u7u8u9t80u1u2u3u4u5u6u7u8",
     "u9t90u1u2u3u4u5u6u7u8u9t100v1v2v3v4v5v6v7v8v9u10v1v2v3v4v5v6v7v8v9u20v1v2v3v4v5v6v7v8v9u30",
     "v1v2v3v4v5v6v7v8v9u40v1v2v3v4v5v6v7v8v9u50v1v2v3v4v5v6v7v8v9u60v1v2v3v4v5v6v7v8v9u70v1v2v3",
     "v4v5v6v7v8v9u80v1v2v3v4v5v6v7v8v9u90v1v2v3v4v5v6v7v8v9t200v1v2v3v4v5v6v7v8v9u10v1v2v3v4v5v",
     "6v7v8v9u20v1v2v3v4v5v6v7v8v9u30v1v2v3v4v5v6v7v8v9u40v1v2v3v4v5v6v7v8v9u50v1v2v3v4v5v6"])]

end StructuredOutput.Text.CharName

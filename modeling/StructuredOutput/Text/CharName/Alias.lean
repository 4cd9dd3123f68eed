/-!
Further names of characters: abbreviations, names of controls, corrections. Each entry is a run
of code points: the first of them, and the names of all in order, each behind the count of characters
that it shares with the name before it. The text of the names is cut into lines of a table.
-/
namespace StructuredOutput.Text.CharName

/-- Names that a code point has besides its own. -/
def aliases : List (Nat × List String) :=
  [(0x0, ["aNULLaSTART OF HEADINGjTEXTaEND OF TEXTiRANSMISSIONcQUIRYaACKNOWLEDGEbLERTaBACKSPACEa",
     "CHARACTER TABULATIONaLINE FEEDfTABULATIONaFORM FEEDaCARRIAGE RETURNaSHIFT OUTgINaDATA LINK",
     " ESCAPEbEVICE CONTROL ONEpTWOqHREEpFOURaNEGATIVE ACKNOWLEDGEaSYNCHRONOUS IDLEaEND OF TRANS",
     "MISSION BLOCKaCANCELaEND OF MEDIUMaSUBSTITUTEaESCAPEaINFORMATION SEPARATOR FOURwTHREExWOwO",
     "NEaSP"]),
   (0x7f, ["aDELETEaPADDING CHARACTERaHIGH OCTET PRESETaBREAK PERMITTED HEREaNO BREAK HEREaINDEX",
     "aNEXT LINEaSTART OF SELECTED AREAaEND OF SELECTED AREAaCHARACTER TABULATION SETvWITH JUSTI",
     "FICATIONaLINE TABULATION SETaPARTIAL LINE FORWARDnBACKWARDaREVERSE LINE FEEDaSINGLE SHIFT ",
     "TWOoHREEaDEVICE CONTROL STRINGaPRIVATE USE ONEmTWOaSET TRANSMIT STATEaCANCEL CHARACTERaMES",
     "SAGE WAITINGaSTART OF GUARDED AREAaEND OF GUARDED AREAaSTART OF STRINGbINGLE GRAPHIC CHARA",
     "CTER INTRODUCERhCHARACTER INTRODUCERaCONTROL SEQUENCE INTRODUCERaSTRING TERMINATORaOPERATI",
     "NG SYSTEM COMMANDaPRIVACY MESSAGEaAPPLICATION PROGRAM COMMANDaNBSP"]),
   (0xad, ["aSHY"]),
   (0x1a2, ["aLATIN CAPITAL LETTER GHAgSMALL LETTER GHA"]),
   (0x34f, ["aCGJ"]),
   (0x61c, ["aALM"]),
   (0x709, ["aSYRIAC SUBLINEAR COLON SKEWED LEFT"]),
   (0xcde, ["aKANNADA LETTER LLLA"]),
   (0xe9d, ["aLAO LETTER FO FON"]),
   (0xe9f, ["aLAO LETTER FO FAY"]),
   (0xea3, ["aLAO LETTER RO"]),
   (0xea5, ["aLAO LETTER LO"]),
   (0xfd0, ["aTIBETAN MARK BKA- SHOG GI MGO RGYAN"]),
   (0x11ec, ["aHANGUL JONGSEONG YESIEUNG-KIYEOKbaSSANGKIYEOKrSSANGYESIEUNGrYESIEUNG-KHIEUKH"]),
   (0x180b, ["aFVS1d2d3aMVSaFVS4"]),
   (0x200b, ["aZWSPcNJcJaLRMaRLM"]),
   (0x202a, ["aLREaRLEaPDFaLROaRLOaNNBSP"]),
   (0x205f, ["aMMSPaWJ"]),
   (0x2066, ["aLRIaRLIaFSIaPDI"]),
   (0x2118, ["aWEIERSTRASS ELLIPTIC FUNCTION"]),
   (0x2448, ["aMICR ON US SYMBOLfDASH SYMBOL"]),
   (0x2b7a, ["aLEFTWARDS TRIANGLE-HEADED ARROW WITH DOUBLE VERTICAL STROKE"]),
   (0x2b7c, ["aRIGHTWARDS TRIANGLE-HEADED ARROW WITH DOUBLE VERTICAL STROKE"]),
   (0xa015, ["aYI SYLLABLE ITERATION MARK"]),
   (0xaa6e, ["aMYANMAR LETTER KHAMTI LLA"]),
   (0xfe00, ["aVS1c2c3c4c5c6c7c8c9c10d1d2d3d4d5d6"]),
   (0xfe18, ["aPRESENTATION FORM FOR VERTICAL RIGHT WHITE LENTICULAR BRACKET"]),
   (0xfeff, ["aBYTE ORDER MARK"]),
   (0x122d4, ["aCUNEIFORM SIGN NU11 TENUuOVER NU11 BUR OVER BUR"]),
   (0x16e56, ["aMEDEFAIDRIN CAPITAL LETTER HbbNG"]),
   (0x16e76, ["aMEDEFAIDRIN SMALL LETTER HzNG"]),
   (0x1b001, ["aHENTAIGANA LETTER E-1"]),
   (0x1d0c5, ["aBYZANTINE MUSICAL SYMBOL FTHORA SKLIRON CHROMA VASIS"]),
   (0xe0100, ["aVS17d8d9c20d1d2d3d4d5d6d7d8d9c30d1d2d3d4d5d6d7d8d9c40d1d2d3d4d5d6d7d8d9c50d1d2d3",
     "d4d5d6d7d8d9c60d1d2d3d4d5d6d7d8d9c70d1d2d3d4d5d6d7d8d9c80d1d2d3d4d5d6d7d8d9c90d1d2d3d4d5d6",
     "d7d8d9c100e1e2e3e4e5e6e7e8e9d10e1e2e3e4e5e6e7e8e9d20e1e2e3e4e5e6e7e8e9d30e1e2e3e4e5e6e7e8e",
     "9d40e1e2e3e4e5e6e7e8e9d50e1e2e3e4e5e6e7e8e9d60e1e2e3e4e5e6e7e8e9d70e1e2e3e4e5e6e7e8e9d80e1",
     "e2e3e4e5e6e7e8e9d90e1e2e3e4e5e6e7e8e9c200e1e2e3e4e5e6e7e8e9d10e1e2e3e4e5e6e7e8e9d20e1e2e3e",
     "4e5e6e7e8e9d30e1e2e3e4e5e6e7e8e9d40e1e2e3e4e5e6e7e8e9d50e1e2e3e4e5e6"]),
   (0x0, ["aNULaSOHbTXaETXbOTbNQaACKaBELbSaHORIZONTAL TABULATIONaNEW LINEaVERTICAL TABULATIONaFF",
     "aCRaLOCKING-SHIFT ONEoZEROaDLEbC1c2c3c4aNAKaSYNaETBaCANaEOMaSUBaESCaFILE SEPARATORaGROUP S",
     "EPARATORaRECORD SEPARATORaUNIT SEPARATOR"]),
   (0x7f, ["aDELaPADaHOPaBPHaNBHaINDaNELaSSAaESAaHORIZONTAL TABULATION SETwWITH JUSTIFICATIONaVE",
     "RTICAL TABULATION SETaPARTIAL LINE DOWNnUPaREVERSE INDEXaSINGLE-SHIFT-2n3aDCSaPRIVATE USE-",
     "1m2aSTSaCCHaMWaSTART OF PROTECTED AREAaEND OF PROTECTED AREAaSOSbGCbCIaCSIaSTaOSCaPMaAPC"]),
   (0xfeff, ["aBOM"]),
   (0x9, ["aHTaEND OF LINEaVT"]),
   (0xe, ["aSObI"]),
   (0x1c, ["aFSaGSaRSaUS"]),
   (0x88, ["aHTScJaVTSaPLDcUaRIaSS2c3"]),
   (0x91, ["aPU1c2"]),
   (0x96, ["aSPAaEPA"]),
   (0xfeff, ["aZWNBSP"]),
   (0x9, ["aTABaEOL"]),
   (0xa, ["aLF"]),
   (0xa, ["aNL"])]

end StructuredOutput.Text.CharName

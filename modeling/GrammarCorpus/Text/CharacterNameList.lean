namespace GrammarCorpus

/-!
# The list of character names

The names of Unicode 14 that follow no rule, with the other names that characters have,
in the order of the alphabet. Names share their beginnings with the names before
them. In front of each stand small letters, which add up to the number of characters
that it shares, where `a` is nothing and `z` is twenty-five; then the rest of it follows.
-/

namespace Text

/-- The list of names, cut into lines. -/
def characterNameList : List String :=
  ["aABACUSbC CURRENTcCORDIONeUNT OFcKdNOWLEDGEcTIVATE ARABIC FORM SHAPINGjSYMMETRIC SWAPPINGcUT",
    "E ACCENThNGLEbDDRESSED TO THE SUBJECTcHESIVE BANDAGEcI SHAKTIcLAM ALIF LENGTHENERgCAPITAL LE",
    "TTER ALIFvBAwHEvCHIvDAALIwHAvEvFAvGAwBEvHAvIvJIIMvKAFwHAwPOvLAAMvMIIMvNHAwUNwYAvOvPEvQAAFvRA",
    "vSHAwINNYIIYHEvTUvUvVAvWAWvYAwHEvZALhONSONANT MODIFIERgDIGIT EIGHTmFIVEnOURmNINEmONEmSEVENnI",
    "XmTHREEnWOmZEROgGEMINATE CONSONANT MODIFIERnION MARKgHAMZAgINITIAL EXCLAMATION MARKoQUESTION",
    " MARKgNASALIZATION MARKhUKTAgSMALL LETTER ALIFtBAuHEtCHItDAALIuHAtEtFAtGAuBEtHAtItJIIMtKAFuH",
    "AuPOtLAAMtMIIMtNHAuUNuYAtOtPEtQAAFtRAtSHAuINNYIIYHEtTUtUtVAtWAWtYAuHEtZALgVOWEL LENGTHENERcM",
    "ETOSdISSION TICKETScULTbEGEAN CHECK MARKhDRY MEASURE FIRST SUBUNIThLIQUID MEASURE FIRST SUBU",
    "NIThMEASURE SECOND SUBUNITpTHIRD SUBUNIThNUMBER EIGHTt HUNDREDuTHOUSANDtYu THOUSANDoFIFTYt T",
    "HOUSANDqVEs HUNDREDtTHOUSANDpORTYt THOUSANDqURs HUNDREDtTHOUSANDoNINEs HUNDREDtTHOUSANDsTYu ",
    "THOUSANDoONEr HUNDREDsTHOUSANDoSEVENt HUNDREDuTHOUSANDtTYv THOUSANDpIXr HUNDREDsTHOUSANDrTYt",
    " THOUSANDoTENr THOUSANDpHIRTYu THOUSANDqREEt HUNDREDuTHOUSANDpWENTYu THOUSANDqOr HUNDREDsTHO",
    "USANDhWEIGHT BASE UNIToFIRST SUBUNITpOURTH SUBUNIToSECOND SUBUNIToTHIRD SUBUNITiORD SEPARATO",
    "R DOTwLINEcRIAL TRAMWAYbFGHANI SIGNbHOM CONSONANT SIGN MEDIAL LAzdIGATING RAzcRAfDIGIT EIGHT",
    "lFIVEmOURlNINElONElSEVENmIXlTHREEmWOlZEROfLETTER AnLTERNATE BAwGAwTAmBAnHAmCAnHAmDAnDAoHAnHA",
    "mGAnHAmHAmJAnHAmKAnHAmLAnLAmMAmNAnGAnNAnYAmPAnHAmRAmSAmTAnHAnTAoHAfNUMBER TENnWENTYfSIGN KIL",
    "LERkRULAIkSECTIONlMALL SECTIONgYMBOL VIfVOWEL SIGN ArArIrMrWqEqIrIqOqUrUbIRPLANEi ARRIVINGjD",
    "EPARTUREbKTIESELSKABbLARM CLOCKcCHEMICAL SYMBOL FOR AIRxLEMBICyKALIzd-2yUMxMALGAMxNTIMONY OR",
    "ExQUA REGIAzh-2zcVITAEzh-2zbFORTISxRSENICxSHESxURIPIGMENTwBATH OF MARYzfVAPOURSxISMUTH ORExL",
    "ACK SULFURxORAXzc-2zd3xRICKwCADUCEUSyLXyPUT MORTUUMxINNABARxOPPER ANTIMONIATEzeORExROCUS OF ",
    "COPPERzn-2zhIRONyUCIBLEzf-2zg3zg4zg5wDAY-NIGHTxISSOLVEzf-2zaTILLwEARTHwFIREwGOLDxUMwHALF DRA",
    "MzcOUNCExORSE DUNGyURwIRON OREzf-2zb-COPPER OREwLEAD ORExODESTONEwMARCASITExERCURY SUBLIMATE",
    "zo-2zp3xONTHwNIGHTyTREwOILwPHILOSOPHERS SULFURxOT ASHESyWDERzdED BRICKxRECIPITATExURIFYyTREF",
    "ACTIONwQUICK LIMEzaNTESSENCEwREALGARze-2yGULUSze OF ANTIMONYzq-2ziIRONze-2zf3zf4yTORTxOCK SA",
    "LTzg-2wSAL-AMMONIACzaTzb OF ANTIMONYzfCOPPER ANTIMONIATExCEPTER OF JOVExILVERxOAPxPIRITxTARR",
    "ED TRIDENTyRATUM SUPER STRATUMzs-2xUBLIMATE OF ANTIMONYzkCOPPERzkSALT OF ANTIMONYzsCOPPERzfI",
    "ONyLFURwTARTARzd-2xIN OREzaCTURExRIDENTxUTTYwURINEwVERDIGRISxINEGARze OF ANTIMONYze-2zf3yTRI",
    "OLze-2wWATERyXcEF SYMBOLdMBICdRTcIEN MONSTERcL AROUND-PROFILEeEQUAL TOcMdOST EQUAL OR EQUAL ",
    "TOnTOp WITH CIRCUMFLEX ACCENTcTERNATE ONE-WAY LEFT WAY TRAFFICiIVE KEY SYMBOLbMALGAMATION OR",
    " COPRODUCTcBULANCEcERICAN FOOTBALLcPERSANDdHORAbNATOLIAN HIEROGLYPH A001y2y3y4y5y6y7y8y9x10z",
    "aAy1y2y3y4y5y6y7y8y9x20y1y2y3y4y5y6zaAy7y8y9x30y1y2y3y4y5y6y7y8y9zaAx40y1zaAy2y3y4y5zaAy6zaA",
    "zaBy7y8y9x50y1y2y3y4y5y6y7y8y9x60y1y2y3y4y5y6zaAzaBzaCy7y8y9x70y1y2y3y4y5y6y7y8y9x80y1y2y3y4",
    "y5y6y7y8y9x90y1y2y3y4y5y6y7zaAy8zaAy9w100zaAy1zaAy2zaAy3y4zaAzaBzaCy5zaAzaBy6y7zaAzaBzaCy8y9",
    "x10zaAzaBy1y2y3y4y5zaAy6y7y8y9x20y1y2y3y4y5zaAy6y7y8y9x30y1y2y3y4y5zaAy6y7y8y9x40y1y2y3y4y5y",
    "6y7y8y9x50y1y2y3y4y5y6y7y8y9x60y1y2y3y4y5y6y7y8y9x70y1y2y3y4y5y6y7y8y9x80y1y2y3y4y5y6y7y8y9x",
    "90y1y2y3y4y5y6y7y8y9w200y1y2zaAzaBy3y4y5y6y7zaAy8y9zaAx10y1y2y3y4y5zaAy6zaAy7y8y9x20y1y2y3y4",
    "y5y6y7zaAy8y9x30y1y2y3y4y5y6y7y8y9x40y1y2y3y4y5y6y7y8y9x50y1y2y3y4y5y6y7y8y9x60y1y2y3y4y5y6y",
    "7zaAy8y9x70y1y2y3y4y5y6y7y8y9x80y1y2y3y4y5y6y7y8y9zaAx90y1y2y3y4zaAy5y6y7y8y9zaAw300y1y2y3y4",
    "y5y6y7y8y9zaAx10y1y2y3y4y5y6y7y8y9x20y1y2y3y4y5y6y7y8y9zaAx30y1y2AzaBzaCy3y4y5y6zaAzaBzaCy7y",
    "8y9x40y1y2y3y4y5y6y7y8y9x50y1y2y3y4y5y6y7y8y9zaAx60y1y2y3y4zaAy5y6y7y8zaAy9x70y1zaAy2y3y4y5y",
    "6y7y8y9x80y1zaAy2y3 RA OR RIzaAy4y5y6zaAy7y8y9x90y1y2y3 EIGHTy4y5y6y7y8y9w400y1y2y3y4y5y6y7y",
    "8y9x10 BEGIN LOGOGRAM MARKzaA END LOGOGRAM MARKy1y2y3y4y5y6y7y8y9x20y1y2y3y4y5y6y7y8y9x30y1y",
    "2y3y4y5y6y7y8y9x40y1y2y3y4y5y6y7y8y9x50zaAy1y2y3y4y5y6y7zaAy8y9x60y1y2y3y4y5y6y7y8y9x70y1y2y",
    "3y4y5y6y7y8y9x80y1y2y3y4y5y6y7y8y9x90y1y2y3y4y5y6y7w501y2y3y4y5y6y7y8y9x10y1y2y3y4y5y6y7y8y9",
    "x20y1y2y3y4y5y6y7y8y9x30fMICAL HEARTcCHORcD WITH DOTcGER SYMBOLdLEf WITH S INSIDElUNDERBARdR",
    "Y FACEdSTROM SIGNdUISHED FACEcKHcTdENNA WITH BARSdICLOCKWISE CLOSED CIRCLE ARROWpONTOUR INTE",
    "GRALoDOWNWARDS AND UPWARDS OPEN CIRCLE ARROWSoGAPPED CIRCLE ARROWoINTEGRATIONoOPEN CIRCLE AR",
    "ROWoTOP SEMICIRCLE ARROWpRIANGLE-HEADED BOTTOM U-SHAPED ARROWzfLEFT U-SHAPED ARROWzfOPEN CIR",
    "CLE ARROWzfRIGHT U-SHAPED ARROWzfTOP U-SHAPED ARROWbPCcL FUNCTIONAL SYMBOL ALPHAzc UNDERBARw",
    "BACKSLASH BARwCIRCLE BACKSLASHzeDIAERESISzeJOTzeSTARzgILEzeUNDERBARxOMMA BARwDEL DIAERESISzb",
    "STILEzbTILDEzaTA STILEzdUNDERBARxIAMOND UNDERBARxOWN CARET TILDEzcSHOE STILEzcTACK JOTzhUNDE",
    "RBARzbWARDS VANEwEPSILON UNDERBARwGREATER-THAN DIAERESISwI-BEAMxOTAzb UNDERBARwJOT DIAERESIS",
    "zbUNDERBARwLEFT SHOE STILEzbWARDS VANEwOMEGAzc UNDERBARwQUADzb BACKSLASHzcCIRCLEzdOLONzcDELz",
    "fTAzdIAMONDzeVIDEzdOWN CARETzgWARDS ARROWzcEQUALzcGREATER-THANzcJOTzcLEFTWARDS ARROWzeSS-THA",
    "NzcNOT EQUALzcQUESTIONzcRIGHTWARDS ARROWzcSLASHzcUP CARETzeWARDS ARROWyOTE QUADzdUNDERBARwRH",
    "OxIGHTWARDS VANEwSEMICOLON UNDERBARxLASH BARxQUISH QUADxTAR DIAERESISyILE TILDEwTILDE DIAERE",
    "SISwUP CARET TILDEzaSHOE JOTzaTACK DIAERESISzfJOTzfOVERBARyWARDS VANEwZILDEcOLLONdSTROPHEcPL",
    "ICATION PROGRAM COMMANDdROACHES THE LIMITfXIMATELY BUT NOT ACTUALLY EQUAL TOoEQUAL OR EQUAL ",
    "TOuTOw OR THE IMAGE OFbQUARIUSbRABIC BASELINE ROUND DOThCOMMAiURLY DAMMAsTANnFATHAsTANnKASRA",
    "sTANhDAMMAm ISOLATED FORMnMEDIAL FORMnWITH DOTmTANp ISOLATED FORMjTE SEPARATORiECIMAL SEPARA",
    "TORiISPUTED END OF AYAHiOUBLE RIGHT ARROWHEAD ABOVEzk WITH DOTnD MADDAhEMPTY CENTRE HIGH STO",
    "PuLOW STOPiND OF AYAHoTEXT MARKhFATHAm ISOLATED FORMnMEDIAL FORMnWITH DOT ABOVEsRINGsTWO DOT",
    "SmTANp ISOLATED FORMiIVE POINTED STARiOOTNOTE MARKERiULL STOPhHALF MADDA OVER MADDAjMZA ABOV",
    "EnBELOWhINVERTED DAMMAhKASRAm ISOLATED FORMnMEDIAL FORMnWITH DOT BELOWmTANp ISOLATED FORMhLA",
    "RGE CIRCLE BELOWnROUND DOT ABOVExBELOWxINSIDE CIRCLE BELOWiEFT ARROWHEAD ABOVEwBELOWjTTER AE",
    "pFRICAN FEHwNOONwQAFza WITH THREE DOTS ABOVEpINr FINAL FORMsINITIAL FORMtSOLATED FORMsMEDIAL",
    " FORMsWITH THREE DOTS ABOVEzjBELOWzjPOINTING DOWNWARDS ABOVEyWO DOTS ABOVEzhVERTICALLY ABOVE",
    "pLEFs FINAL FORMtISOLATED FORMtMAKSURAzb FINAL FORMzcISOLATED FORMtWASLAy FINAL FORMzaISOLAT",
    "ED FORMuITH ATTACHED BOTTOM RIGHT KASRAzzb AND DOT ABOVEzzgLEFT RINGziFATHAziKASRAziLEFT HAM",
    "ZAznROUND DOTziRIGHT HAMZAzoROUND DOTzjOUND DOT ABOVEzsBELOWziTOP RIGHT FATHAzx AND DOT ABOV",
    "EzzdLEFT RINGyDOT ABOVEyEXTENDED ARABIC-INDIC DIGIT THREE ABOVEzzdWO ABOVEyHAMZA ABOVEzk FIN",
    "AL FORMzlISOLATED FORMzfBELOWzk FINAL FORMzlISOLATED FORMyLEFT MIDDLE STROKEyMADDA ABOVEzk F",
    "INAL FORMzlISOLATED FORMyRIGHT MIDDLE STROKEzs AND DOT ABOVEzxLEFT RINGyWAVY HAMZA ABOVEzkBE",
    "LOWoBEEHs FINAL FORMtINITIAL FORMuSOLATED FORMtMEDIAL FORMqHr FINAL FORMsINITIAL FORMtSOLATE",
    "D FORMsMEDIAL FORMsWITH DOT BELOW AND THREE DOTS ABOVExHAMZA ABOVExINVERTED SMALL V BELOWxSM",
    "ALL MEEM ABOVEzeVzf BELOWxTHREE DOTS HORIZONTALLY BELOWzjPOINTING UPWARDS BELOWzzg AND TWO D",
    "OTS ABOVEyWO DOTS BELOW AND DOT ABOVErEHt FINAL FORMuINITIAL FORMvSOLATED FORMuMEDIAL FORMoD",
    "ADr FINAL FORMsINITIAL FORMtSOLATED FORMsMEDIAL FORMsWITH DOT BELOWqHALt FINAL FORMuISOLATED",
    " FORMqLr FINAL FORMsISOLATED FORMsWITH DOT BELOWzh AND SMALL TAHxFOUR DOTS ABOVExINVERTED SM",
    "ALL V BELOWzhVxRINGxTHREE DOTS ABOVE DOWNWARDSzjBELOWyWO DOTS VERTICALLY BELOW AND SMALL TAH",
    "pDAHALu FINAL FORMvISOLATED FORMrLs FINAL FORMtISOLATED FORMpOTLESS BEHwFEHwQAFpULr FINAL FO",
    "RMsISOLATED FORMpYEHs FINAL FORMtINITIAL FORMuSOLATED FORMtMEDIAL FORMoEp FINAL FORMqINITIAL",
    " FORMrSOLATED FORMqMEDIAL FORMoFARSI YEHx FINAL FORMyINITIAL FORMzaSOLATED FORMyMEDIAL FORMy",
    "WITH EXTENDED ARABIC-INDIC DIGIT FOUR BELOWzzhTHREE ABOVEzziWO ABOVEzeINVERTED VzeTHREE DOTS",
    " ABOVEzfWO DOTS ABOVEpEHr FINAL FORMsINITIAL FORMtSOLATED FORMsMEDIAL FORMsWITH DOT BELOWzh ",
    "AND THREE DOTS ABOVEzcMOVED BELOWxTHREE DOTS BELOWzjPOINTING UPWARDS BELOWyWO DOTS BELOWoGAF",
    "r FINAL FORMsINITIAL FORMtSOLATED FORMsMEDIAL FORMsWITH INVERTED STROKExRINGxTHREE DOTS ABOV",
    "EyWO DOTS BELOWpHAINt FINAL FORMuINITIAL FORMvSOLATED FORMuMEDIAL FORMuWITH DOT BELOWzaTHREE",
    " DOTS ABOVEpRAFpUEHs FINAL FORMtINITIAL FORMuSOLATED FORMtMEDIAL FORMoHAHr FINAL FORMsINITIA",
    "L FORMtSOLATED FORMsMEDIAL FORMsWITH EXTENDED ARABIC-INDIC DIGIT FOUR BELOWxHAMZA ABOVExINVE",
    "RTED SMALL V BELOWxSMALL ARABIC LETTER TAH ABOVEzxND TWO DOTSzwBELOWxTHREE DOTS ABOVEzjPOINT",
    "ING UPWARDS BELOWyWO DOTS ABOVEzhVERTICAL ABOVEqMZAt ISOLATED FORMpEHr DOACHASHMEEze FINAL F",
    "ORMzfINITIAL FORMzgSOLATED FORMzfMEDIAL FORMsFINAL FORMsGOALw FINAL FORMxINITIAL FORMySOLATE",
    "D FORMxMEDIAL FORMxWITH HAMZA ABOVEsINITIAL FORMtSOLATED FORMsMEDIAL FORMsWITH INVERTED VxYE",
    "H ABOVEzh FINAL FORMziISOLATED FORMpIGH HAMZAy ALEFzaWAWzaYEHoJEEMs FINAL FORMtINITIAL FORMu",
    "SOLATED FORMtMEDIAL FORMtWITH THREE DOTS ABOVEzkBELOWzaWO DOTS ABOVEqHr FINAL FORMsISOLATED ",
    "FORMoKAFr FINAL FORMsINITIAL FORMtSOLATED FORMsMEDIAL FORMsWITH DOT ABOVEzcBELOWxRINGxTHREE ",
    "DOTS BELOWyWO DOTS ABOVEqSHMIRI YEHpEHEHt FINAL FORMuINITIAL FORMvSOLATED FORMuMEDIAL FORMuW",
    "ITH DOT ABOVEzaSMALL VzaTHREE DOTS ABOVEzlBELOWzlPOINTING UPWARDS BELOWzbWO DOTS ABOVEzjVERT",
    "ICALLY BELOWpHAHs FINAL FORMtINITIAL FORMuSOLATED FORMtMEDIAL FORMpIRGHIZ OEy FINAL FORMzaIS",
    "OLATED FORMwYUy FINAL FORMzaISOLATED FORMoLAMr FINAL FORMsINITIAL FORMtSOLATED FORMsMEDIAL F",
    "ORMsWITH BARxDOT ABOVEzaUBLE BARxSMALL ARABIC LETTER TAH ABOVEzeVxTHREE DOTS ABOVEzjBELOWpOW",
    " ALEFoMARKpEEMs FINAL FORMtINITIAL FORMuSOLATED FORMtMEDIAL FORMtWITH DOT ABOVEzdBELOWyTHREE",
    " DOTS ABOVEoNGq FINAL FORMrINITIAL FORMsSOLATED FORMrMEDIAL FORMqOEHt FINAL FORMuINITIAL FOR",
    "MvSOLATED FORMuMEDIAL FORMpOONs FINAL FORMtGHUNNAza FINAL FORMzbISOLATED FORMtINITIAL FORMuS",
    "OLATED FORMtMEDIAL FORMtWITH DOT BELOWyINVERTED SMALL VyRINGySMALL TAHzfVyTHREE DOTS ABOVEza",
    "WO DOTS BELOWpYEHs FINAL FORMtINITIAL FORMuSOLATED FORMtMEDIAL FORMoOEq FINAL FORMrISOLATED ",
    "FORMoPEHr FINAL FORMsINITIAL FORMtSOLATED FORMsMEDIAL FORMsWITH SMALL MEEM ABOVEzeVrEHt FINA",
    "L FORMuINITIAL FORMvSOLATED FORMuMEDIAL FORMoQAFr FINAL FORMsINITIAL FORMtSOLATED FORMsMEDIA",
    "L FORMsWITH DOT ABOVEzcBELOWzh AND NO DOTS ABOVExTHREE DOTS ABOVEoREHr FINAL FORMsISOLATED F",
    "ORMsWITH DOT BELOWzh AND DOT ABOVExFOUR DOTS ABOVExHAMZA ABOVExINVERTED VxLOOPxRINGxSMALL AR",
    "ABIC LETTER TAH AND TWO DOTSzeNOON ABOVEzeVzf BELOWyTROKExTWO DOTS ABOVEzhVERTICALLY ABOVEpN",
    "OONt FINAL FORMuINITIAL FORMvSOLATED FORMuMEDIAL FORMpOHINGYA YEHpREHs FINAL FORMtISOLATED F",
    "ORMoSADr FINAL FORMsINITIAL FORMtSOLATED FORMsMEDIAL FORMsWITH THREE DOTS ABOVEzjBELOWyWO DO",
    "TS BELOWpEENs FINAL FORMtINITIAL FORMuSOLATED FORMtMEDIAL FORMtWITH DOT BELOW AND DOT ABOVEy",
    "EXTENDED ARABIC-INDIC DIGIT FOUR ABOVEyFOUR DOTS ABOVEyINVERTED VySMALL ARABIC LETTER TAH AN",
    "D TWO DOTSyTHREE DOTS BELOWzp AND THREE DOTS ABOVEzaWO DOTS VERTICALLY ABOVEpHEENt FINAL FOR",
    "MuINITIAL FORMvSOLATED FORMuMEDIAL FORMuWITH DOT BELOWpTRAIGHT WAWpUPERSCRIPT ALEFpWASH KAFo",
    "TAHr FINAL FORMsINITIAL FORMtSOLATED FORMsMEDIAL FORMsWITH DOT BELOWxTHREE DOTS ABOVEzjBELOW",
    "yWO DOTS ABOVEpCHEHt FINAL FORMuINITIAL FORMvSOLATED FORMuMEDIAL FORMuWITH DOT ABOVEzaSMALL ",
    "VtEHv FINAL FORMwINITIAL FORMxSOLATED FORMwMEDIAL FORMpEHr FINAL FORMsINITIAL FORMtSOLATED F",
    "ORMsMARBUTAza FINAL FORMzbGOALzbISOLATED FORMtEDIAL FORMsWITH RINGxSMALL TEH ABOVEzeVxTHREE ",
    "DOTS ABOVE DOWNWARDSrEHt FINAL FORMuINITIAL FORMvSOLATED FORMuMEDIAL FORMpHALs FINAL FORMtIS",
    "OLATED FORMqEHs FINAL FORMtINITIAL FORMuSOLATED FORMtMEDIAL FORMqIN YEHpTEHs FINAL FORMtINIT",
    "IAL FORMuSOLATED FORMtMEDIAL FORMtWITH SMALL VsEHu FINAL FORMvINITIAL FORMwSOLATED FORMvMEDI",
    "AL FORMoUp FINAL FORMqISOLATED FORMqWITH HAMZA ABOVEzh ISOLATED FORMpIGHUR KAZAKH KIRGHIZ AL",
    "EF MAKSURA INITIAL FORMzyMEDIAL FORMoVEq FINAL FORMrISOLATED FORMqHr FINAL FORMsINITIAL FORM",
    "tSOLATED FORMsMEDIAL FORMoWAWr FINAL FORMsISOLATED FORMsWITH DOT ABOVEzcWITHINxEXTENDED ARAB",
    "IC-INDIC DIGIT THREE ABOVEzzcWO ABOVExHAMZA ABOVEzj FINAL FORMzkISOLATED FORMxRINGxTWO DOTS ",
    "ABOVEoYEHr BARREEy FINAL FORMzaISOLATED FORMzaWITH EXTENDED ARABIC-INDIC DIGIT THREE ABOVEzz",
    "jWO ABOVEzfHAMZA ABOVEzq FINAL FORMzrISOLATED FORMsFINAL FORMsINITIAL FORMtSOLATED FORMsMEDI",
    "AL FORMsWITH HAMZA ABOVEzj FINAL FORMzkINITIAL FORMzlSOLATED FORMzkMEDIAL FORMxSMALL VxTAILy",
    "HREE DOTS BELOWyWO DOTS BELOW AND DOT ABOVEzrHAMZA ABOVEzrSMALL NOON ABOVEpUq FINAL FORMrISO",
    "LATED FORMoZAHr FINAL FORMsINITIAL FORMtSOLATED FORMsMEDIAL FORMqINs FINAL FORMtISOLATED FOR",
    "MtWITH INVERTED V ABOVEiIGATURE AIN WITH ALEF MAKSURA FINAL FORMznISOLATED FORMzaJEEM INITIA",
    "L FORMzgSOLATED FORMzfWITH MEEM FINAL FORMzpINITIAL FORMzaMEEM INITIAL FORMzgSOLATED FORMzfW",
    "ITH ALEF MAKSURA FINAL FORMzkMEEM FINAL FORMzpINITIAL FORMzkYEH FINAL FORMzaYEH FINAL FORMze",
    "ISOLATED FORMrKBAR ISOLATED FORMrLAYHAA AS-SALAAMvE ISOLATED FORMvI AS-SALAAMzgTU WAS-SALAAM",
    "wM AS-SALAAMxAA AS-SALAAMsEF MAKSURA WITH SUPERSCRIPT ALEF FINAL FORMzzbISOLATED FORMvWITH F",
    "ATHATAN FINAL FORMzkISOLATED FORMsLAH ISOLATED FORMrZZA WA JALLqBEH WITH ALEF MAKSURA FINAL ",
    "FORMznISOLATED FORMzaHAH INITIAL FORMzfSOLATED FORMzeWITH YEH FINAL FORMzbEH INITIAL FORMzeM",
    "EDIAL FORMzaJEEM INITIAL FORMzgSOLATED FORMzaKHAH INITIAL FORMzgSOLATED FORMzfWITH YEH FINAL",
    " FORMzaMEEM FINAL FORMzfINITIAL FORMzgSOLATED FORMzfMEDIAL FORMzaNOON FINAL FORMzaREH FINAL ",
    "FORMzaYEH FINAL FORMzeISOLATED FORMzaZAIN FINAL FORMrISMILLAH AR-RAHMAN AR-RAHEEMqDAD WITH A",
    "LEF MAKSURA FINAL FORMznISOLATED FORMzaHAH INITIAL FORMzfSOLATED FORMzeWITH ALEF MAKSURA FIN",
    "AL FORMzjYEH FINAL FORMzaJEEM INITIAL FORMzgSOLATED FORMzaKHAH INITIAL FORMzgSOLATED FORMzfW",
    "ITH MEEM FINAL FORMzpINITIAL FORMzaMEEM INITIAL FORMzgSOLATED FORMzaREH FINAL FORMzeISOLATED",
    " FORMzaYEH FINAL FORMzeISOLATED FORMqFEH WITH ALEF MAKSURA FINAL FORMznISOLATED FORMzaHAH IN",
    "ITIAL FORMzfSOLATED FORMzaJEEM INITIAL FORMzgSOLATED FORMzaKHAH INITIAL FORMzgSOLATED FORMzf",
    "WITH MEEM FINAL FORMzpINITIAL FORMzaMEEM INITIAL FORMzgSOLATED FORMzfWITH YEH FINAL FORMzaYE",
    "H FINAL FORMzeISOLATED FORMqGHAIN WITH ALEF MAKSURA FINAL FORMzpISOLATED FORMzcJEEM INITIAL ",
    "FORMziSOLATED FORMzcMEEM INITIAL FORMziSOLATED FORMzhWITH ALEF MAKSURA FINAL FORMzmMEEM FINA",
    "L FORMzmYEH FINAL FORMzcYEH FINAL FORMzgISOLATED FORMqHAH WITH ALEF MAKSURA FINAL FORMznISOL",
    "ATED FORMzaJEEM INITIAL FORMzgSOLATED FORMzfWITH YEH FINAL FORMzaMEEM INITIAL FORMzgSOLATED ",
    "FORMzfWITH ALEF MAKSURA FINAL FORMzkYEH FINAL FORMzaYEH FINAL FORMzeISOLATED FORMrEH WITH AL",
    "EF MAKSURA ISOLATED FORMzaJEEM INITIAL FORMzgSOLATED FORMzaMEEM INITIAL FORMzgSOLATED FORMzf",
    "WITH JEEM INITIAL FORMzkMEEM INITIAL FORMzaSUPERSCRIPT ALEF INITIAL FORMzaYEH ISOLATED FORMq",
    "JALLAJALALOUHOUrEEM WITH ALEF MAKSURA FINAL FORMzoISOLATED FORMzbHAH INITIAL FORMzgSOLATED F",
    "ORMzfWITH ALEF MAKSURA FINAL FORMzkYEH FINAL FORMzbMEEM INITIAL FORMzhSOLATED FORMzgWITH ALE",
    "F MAKSURA FINAL FORMzlHAH FINAL FORMzpINITIAL FORMzlYEH FINAL FORMzbYEH FINAL FORMzfISOLATED",
    " FORMqKAF WITH ALEF FINAL FORMzfISOLATED FORMzfMAKSURA FINAL FORMznISOLATED FORMzaHAH INITIA",
    "L FORMzfSOLATED FORMzaJEEM INITIAL FORMzgSOLATED FORMzaKHAH INITIAL FORMzgSOLATED FORMzaLAM ",
    "FINAL FORMzeINITIAL FORMzfSOLATED FORMzeMEDIAL FORMzaMEEM FINAL FORMzfINITIAL FORMzgSOLATED ",
    "FORMzfMEDIAL FORMzfWITH MEEM FINAL FORMzpINITIAL FORMzkYEH FINAL FORMzaYEH FINAL FORMzeISOLA",
    "TED FORMrHAH WITH ALEF MAKSURA FINAL FORMzoISOLATED FORMzbHAH ISOLATED FORMzbJEEM INITIAL FO",
    "RMzhSOLATED FORMzbMEEM INITIAL FORMzhSOLATED FORMzbYEH FINAL FORMzfISOLATED FORMqLAM WITH AL",
    "EF FINAL FORMzfISOLATED FORMzfMAKSURA FINAL FORMznISOLATED FORMzfWITH HAMZA ABOVE FINAL FORM",
    "zwISOLATED FORMzqBELOW FINAL FORMzwISOLATED FORMzkMADDA ABOVE FINAL FORMzwISOLATED FORMzaHAH",
    " INITIAL FORMzfSOLATED FORMzeWITH ALEF MAKSURA FINAL FORMzjMEEM FINAL FORMzoINITIAL FORMzjYE",
    "H FINAL FORMzbEH INITIAL FORMzaJEEM INITIAL FORMzgSOLATED FORMzfWITH JEEM FINAL FORMzpINITIA",
    "L FORMzkMEEM FINAL FORMzpINITIAL FORMzkYEH FINAL FORMzaKHAH INITIAL FORMzgSOLATED FORMzfWITH",
    " MEEM FINAL FORMzpINITIAL FORMzaMEEM FINAL FORMzfINITIAL FORMzgSOLATED FORMzfMEDIAL FORMzfWI",
    "TH HAH FINAL FORMzoINITIAL FORMzkYEH FINAL FORMzaYEH FINAL FORMzeISOLATED FORMqMEEM WITH ALE",
    "F FINAL FORMzgMAKSURA ISOLATED FORMzbHAH INITIAL FORMzgSOLATED FORMzfWITH JEEM INITIAL FORMz",
    "kMEEM INITIAL FORMzkYEH FINAL FORMzbJEEM INITIAL FORMzhSOLATED FORMzgWITH HAH INITIAL FORMzl",
    "KHAH INITIAL FORMzlMEEM INITIAL FORMzlYEH FINAL FORMzbKHAH INITIAL FORMzhSOLATED FORMzgWITH ",
    "JEEM INITIAL FORMzlMEEM INITIAL FORMzlYEH FINAL FORMzbMEEM FINAL FORMzgINITIAL FORMzhSOLATED",
    " FORMzgWITH YEH FINAL FORMzbYEH ISOLATED FORMrOHAMMAD ISOLATED FORMqNOON WITH ALEF MAKSURA F",
    "INAL FORMzoISOLATED FORMzbHAH INITIAL FORMzgSOLATED FORMzfWITH ALEF MAKSURA FINAL FORMzkMEEM",
    " INITIAL FORMzkYEH FINAL FORMzcEH INITIAL FORMzfMEDIAL FORMzbJEEM INITIAL FORMzhSOLATED FORM",
    "zgWITH ALEF MAKSURA FINAL FORMzlHAH FINAL FORMzpINITIAL FORMzlMEEM FINAL FORMzqINITIAL FORMz",
    "lYEH FINAL FORMzbKHAH INITIAL FORMzhSOLATED FORMzbMEEM FINAL FORMzgINITIAL FORMzhSOLATED FOR",
    "MzgMEDIAL FORMzgWITH ALEF MAKSURA FINAL FORMzlYEH FINAL FORMzbNOON FINAL FORMzbREH FINAL FOR",
    "MzbYEH FINAL FORMzfISOLATED FORMzbZAIN FINAL FORMqQAF WITH ALEF MAKSURA FINAL FORMznISOLATED",
    " FORMzaHAH INITIAL FORMzfSOLATED FORMzaMEEM INITIAL FORMzgSOLATED FORMzfWITH HAH FINAL FORMz",
    "oINITIAL FORMzkMEEM FINAL FORMzkYEH FINAL FORMzaYEH FINAL FORMzeISOLATED FORMsLA USED AS KOR",
    "ANIC STOP SIGN ISOLATED FORMrUDDISA SIRRAHqRADI ALLAAHU ANHzhAAzhUMzjAAziNNAsHIMAHU ALLAAHyM",
    " ALLAAHsSOUL ISOLATED FORMrEH WITH SUPERSCRIPT ALEF ISOLATED FORMqSAD WITH ALEF MAKSURA FINA",
    "L FORMznISOLATED FORMzaHAH INITIAL FORMzfSOLATED FORMzeWITH HAH FINAL FORMznINITIAL FORMzjYE",
    "H FINAL FORMzaKHAH INITIAL FORMzaMEEM INITIAL FORMzgSOLATED FORMzfWITH MEEM FINAL FORMzpINIT",
    "IAL FORMzaREH FINAL FORMzeISOLATED FORMzaYEH FINAL FORMzeISOLATED FORMsLAAMUHU ALAYNAAuM ISO",
    "LATED FORMtLA ISOLATED FORMwUSED AS KORANIC STOP SIGN ISOLATED FORMvLLAAHU ALAYHI WA-AALIHyH",
    "OU ALAYHE WASALLAMzaU ALAYHI WAAALIHEE WA-SALLAMrEEN WITH ALEF MAKSURA FINAL FORMzoISOLATED ",
    "FORMzbHAH INITIAL FORMzgSOLATED FORMzfMEDIAL FORMzfWITH JEEM INITIAL FORMzcEH INITIAL FORMzf",
    "MEDIAL FORMzbJEEM INITIAL FORMzhSOLATED FORMzgMEDIAL FORMzgWITH ALEF MAKSURA FINAL FORMzlHAH",
    " INITIAL FORMzbKHAH INITIAL FORMzhSOLATED FORMzgMEDIAL FORMzgWITH ALEF MAKSURA FINAL FORMzlY",
    "EH FINAL FORMzbMEEM INITIAL FORMzhSOLATED FORMzgMEDIAL FORMzgWITH HAH FINAL FORMzpINITIAL FO",
    "RMzlJEEM INITIAL FORMzlMEEM FINAL FORMzqINITIAL FORMzbREH FINAL FORMzfISOLATED FORMzbYEH FIN",
    "AL FORMzfISOLATED FORMrHADDA WITH DAMMA ISOLATED FORMzjMEDIAL FORMziTAN ISOLATED FORMzdFATHA",
    " ISOLATED FORMzjMEDIAL FORMzdKASRA ISOLATED FORMzjMEDIAL FORMziTAN ISOLATED FORMzdSUPERSCRIP",
    "T ALEF ISOLATED FORMsEEN WITH ALEF MAKSURA FINAL FORMzpISOLATED FORMzcHAH FINAL FORMzgINITIA",
    "L FORMzhSOLATED FORMzgMEDIAL FORMzgWITH MEEM FINAL FORMzqINITIAL FORMzlYEH FINAL FORMzdEH IN",
    "ITIAL FORMzgMEDIAL FORMzcJEEM FINAL FORMzhINITIAL FORMziSOLATED FORMzhMEDIAL FORMzhWITH YEH ",
    "FINAL FORMzcKHAH FINAL FORMzhINITIAL FORMziSOLATED FORMzhMEDIAL FORMzcMEEM FINAL FORMzhINITI",
    "AL FORMziSOLATED FORMzhMEDIAL FORMzhWITH KHAH FINAL FORMzrINITIAL FORMzmMEEM FINAL FORMzrINI",
    "TIAL FORMzcREH FINAL FORMzgISOLATED FORMzcYEH FINAL FORMzgISOLATED FORMrUBHAANAHU WA TAAALAA",
    "qTABAARAKA WA-TAAALAAsH WITH ALEF MAKSURA FINAL FORMznISOLATED FORMzaHAH INITIAL FORMzfSOLAT",
    "ED FORMzaMEEM INITIAL FORMzgSOLATED FORMzfMEDIAL FORMzfWITH HAH FINAL FORMzoINITIAL FORMzkME",
    "EM INITIAL FORMzkYEH FINAL FORMzaYEH FINAL FORMzeISOLATED FORMrEH WITH ALEF MAKSURA FINAL FO",
    "RMznISOLATED FORMzaHAH INITIAL FORMzfSOLATED FORMzeWITH JEEM FINAL FORMzoINITIAL FORMzjMEEM ",
    "INITIAL FORMzbEH INITIAL FORMzeMEDIAL FORMzaJEEM INITIAL FORMzgSOLATED FORMzfWITH ALEF MAKSU",
    "RA FINAL FORMzkMEEM INITIAL FORMzkYEH FINAL FORMzaKHAH INITIAL FORMzgSOLATED FORMzfWITH ALEF",
    " MAKSURA FINAL FORMzkMEEM INITIAL FORMzkYEH FINAL FORMzaMEEM FINAL FORMzfINITIAL FORMzgSOLAT",
    "ED FORMzfMEDIAL FORMzfWITH ALEF MAKSURA FINAL FORMzkHAH INITIAL FORMzkJEEM INITIAL FORMzkKHA",
    "H INITIAL FORMzkYEH FINAL FORMzaNOON FINAL FORMzaREH FINAL FORMzaYEH FINAL FORMzeISOLATED FO",
    "RMzaZAIN FINAL FORMrHAL WITH SUPERSCRIPT ALEF ISOLATED FORMsEH WITH ALEF MAKSURA FINAL FORMz",
    "oISOLATED FORMzbHEH MEDIAL FORMzbJEEM ISOLATED FORMzbMEEM FINAL FORMzgINITIAL FORMzhSOLATED ",
    "FORMzgMEDIAL FORMzbNOON FINAL FORMzbREH FINAL FORMzbYEH FINAL FORMzfISOLATED FORMzbZAIN FINA",
    "L FORMqUIGHUR KIRGHIZ YEH WITH HAMZA ABOVE WITH ALEF MAKSURA FINAL FORMzzuINITIAL FORMzzvSOL",
    "ATED FORMqWASALLAM ISOLATED FORMqYEH WITH ALEF MAKSURA FINAL FORMznISOLATED FORMzaHAH INITIA",
    "L FORMzfSOLATED FORMzeWITH YEH FINAL FORMzcMZA ABOVE WITH AE FINAL FORMzuISOLATED FORMzsLEF ",
    "FINAL FORMzwISOLATED FORMzwMAKSURA FINAL FORMzzfISOLATED FORMzrE FINAL FORMztINITIAL FORMzuS",
    "OLATED FORMzrHAH INITIAL FORMzwSOLATED FORMzsEH INITIAL FORMzvMEDIAL FORMzrJEEM INITIAL FORM",
    "zxSOLATED FORMzrKHAH INITIAL FORMzrMEEM FINAL FORMzwINITIAL FORMzxSOLATED FORMzwMEDIAL FORMz",
    "rNOON FINAL FORMzrOE FINAL FORMzuISOLATED FORMzrREH FINAL FORMzrU FINAL FORMztISOLATED FORMz",
    "rWAW FINAL FORMzvISOLATED FORMzrYEH FINAL FORMzvISOLATED FORMzsU FINAL FORMzuISOLATED FORMzr",
    "ZAIN FINAL FORMzbEH INITIAL FORMzeMEDIAL FORMzaJEEM INITIAL FORMzgSOLATED FORMzfWITH YEH FIN",
    "AL FORMzaKHAH INITIAL FORMzgSOLATED FORMzaMEEM FINAL FORMzfINITIAL FORMzgSOLATED FORMzfMEDIA",
    "L FORMzfWITH MEEM FINAL FORMzpINITIAL FORMzkYEH FINAL FORMzaNOON FINAL FORMzaREH FINAL FORMz",
    "aYEH FINAL FORMzeISOLATED FORMzaZAIN FINAL FORMqZAH WITH MEEM INITIAL FORMzgSOLATED FORMzfME",
    "DIAL FORMhMADDA WAAJIBmH ABOVEjRK NOON GHUNNAmSIDEWAYS NOON GHUNNAjTHEMATICAL AINvLEFuBEHuDA",
    "DwLvOTLESS BEHzdFEHzdNOONzdQAFwUBLE-STRUCK AINzjBEHzjDADzlLzjFEHzjGHAINzjHAHzjJEEMzjKHAHzjLA",
    "MzjMEEMzjNOONzjQAFzjREHzjSADzkEENzkHEENzjTAHzkEHzkHALzlEHzjWAWzjYEHzjZAHzlINuFEHuGHAINuHAHuI",
    "NITIAL AINzdBEHzdDADzdFEHzdGHAINzdHAHzeEHzdJEEMzdKAFzeHAHzdLAMzdMEEMzdNOONzdQAFzdSADzeEENzeH",
    "EENzdTEHzeHEHzdYEHuJEEMuKAFvHAHuLAMvOOPED AINzdLEFzcBEHzcDADzeLzcFEHzcGHAINzcHAHzdEHzcJEEMzc",
    "KHAHzcLAMzcMEEMzcNOONzcQAFzcREHzcSADzdEENzdHEENzcTAHzdEHzdHALzeEHzcWAWzcYEHzcZAHzeINuMEEMuNO",
    "ONuOPERATOR HAH WITH DALzeMEEM WITH HAH WITH TATWEELuQAFuREHuSADvEENvHEENvTRETCHED AINzfBEHz",
    "fDADzgOTLESS BEHznFEHzfFEHzfGHAINzfHAHzgEHzfJEEMzfKAFzgHAHzfMEEMzfNOONzfQAFzfSADzgEENzgHEENz",
    "fTAHzgEHzgHEHzfYEHzfZAHuTAHwILED AINzcDADzdOTLESS NOONzkQAFzcGHAINzcHAHzcJEEMzcKHAHzcLAMzcNO",
    "ONzcQAFzcSADzdEENzdHEENzcYEHvEHvHALwEHuWAWuYEHuZAHwINhNUMBER MARK ABOVEoSIGNhOPEN DAMMATANmF",
    "ATHATANmKASRATANhPERCENT SIGNiIASTRE MARK ABOVEiLACE OF SAJDAHiOETIC VERSE SIGNjUND MARK ABO",
    "VEhQUESTION MARKhRAISED ROUND DOTjYiEVERSED DAMMAiIGHT ARROWHEAD ABOVEzd WITH DOTxBELOWiOUND",
    "ED HIGH STOP WITH FILLED CENTREhSEMICOLONiHADDAn ISOLATED FORMoMEDIAL FORMiIGN ALAYHE ASSALL",
    "AMmMISRAmRADI ALLAHOU ANHUoHMATULLAH ALAYHEmSAFHAoLLALLAHOU ALAYHE WASSALLAMoMVAToNAHnINDHI ",
    "AMPERSANDtPOSTPOSITION MENmTAKHALLUSiMALL DAMMAnFARSI YEHpTHAnHIGH AINsDOTLESS HEAD OF KHAHs",
    "FARSI YEHtOOTNOTE MARKERsJEEMsLAM ALEFtIGATURE ALEF WITH LAM WITH YEHzcQAF WITH LAM WITH ALE",
    "F MAKSURAzcSAD WITH LAM WITH ALEF MAKSURAsMADDAtEEM INITIAL FORMySOLATED FORMsNOONw WITH KAS",
    "RAsQAFsROUNDED ZEROsSADtEENtIGN SAFHAsTAHtHREE DOTSsUPRIGHT RECTANGULAR ZEROsWAWtORD AL-JUZy",
    "N-NISFyR-RUByS-SAJDAyTH-THALATHAxQIFxSAHzaKTAxWAQFAsYEHv BARREE WITH TWO DOTS BELOWsZAHuINnK",
    "ASRAnLOW MEEMrNOON WITH KASRArSEENrWAWsORD IMAALAxSHMAAMwTASHEELnWAWnYEHiTART OF RUB EL HIZB",
    "iUBSCRIPT ALEFjKUNm BELOWnISOLATED FORMnMEDIAL FORMjPERSCRIPT ALEF MOKHASSASiYMBOL DOT ABOVE",
    "sBELOWqUBLE VERTICAL BAR BELOWoFOUR DOTS ABOVEyBELOWoRINGoSMALL TAH ABOVEyBELOWoTHREE DOTS A",
    "BOVEzaBELOWzaPOINTING DOWNWARDS ABOVEztBELOWpWO DOTS ABOVExBELOWxVERTICALLY ABOVEzjBELOWoWAS",
    "LA ABOVEhTAIL FRAGMENTjTWEELo WITH FATHATAN ABOVEuOVERSTRUCK HAMZAzgWAWuTWO DOTS BELOWiHOUSA",
    "NDS SEPARATORiONE LOOP ABOVErBELOWmONE DOT ABOVEuBELOWmTWO DOTS ABOVEvBELOWiRIPLE DOT PUNCTU",
    "ATION MARKiURNED DAMMA BELOWhVERTICAL TAILiOWEL SIGN DOT BELOWsINVERTED SMALL V ABOVEsSMALL ",
    "V ABOVEhWAVY HAMZA BELOWhZWARAKAYg-INDIC CUBE ROOTnDIGIT EIGHTtFIVEuOURtNINEtONEtSEVENuIXtTH",
    "REEuWOtZEROnFOURTH ROOTnPER MILLE SIGNrTEN THOUSAND SIGNcCcIEScMENIAN ABBREVIATION MARKkPOST",
    "ROPHEjCAPITAL LETTER AYByBENyCAzaHAzbEHzaOyDAyECHzaHzaTyFEHyGHADzaIMyHOyINIyJAzaHEHyKEHzbNyL",
    "IWNyMENyNOWyOHyPEHzaIWRyRAzaEHySEHzaHAyTIWNzaOyVEWzaOyXEHyYIzbWNyZAzaHEkOMMAjDRAM SIGNjEMPHA",
    "SIS MARKkXCLAMATION MARKjFULL STOPjHYPHENjMODIFIER LETTER LEFT HALF RINGjQUESTION MARKjSMALL",
    " LETTER AYBwBENwCAxHAyEHxOwDAwECHxHxTwFEHwGHADxIMwHOwINIwJAxHEHwKEHyNwLIWNwMENwNOWwOHwPEHxIW",
    "RwRAxEHwSEHxHAwTIWNxOxURNED AYBwVEWxOwXEHwYIy WITH STROKEyWNwZAxHEqIGATURE ECH YIWNyMEN ECHz",
    "dINIzdNOWzdXEHyVEW NOWcROW POINTING DOWNWARDS THEN CURVING LEFTWARDSznRIGHTWARDSpRIGHTWARDS ",
    "THEN CURVING DOWNWARDSzoSOUTH WESTzoUPWARDSpUPWARDS THEN NORTH WESTfHEAD-SHAPED POINTERcTICU",
    "LATED LORRYeST PALETTEbSCENDING NODEdIA SYMBOLcSERTIONcTERISKi OPERATORhMdONISHED FACEdRAEAe",
    "ONOMICAL SYMBOL FOR URANUScYMPTOTICALLY EQUAL TObTHLETIC SHOEcOM SYMBOLbUBERGINEcSTRAL SIGNc",
    "TO RICKSHAWeMATED TELLER MACHINEfOBILEbVESTAN ABBREVIATION MARKiLETTER AqArNrOqErEqNqOpBEqHE",
    "pCEpDEqHEpEqEpFEpGEqGEqHEpHEqMEpIqIpJEpKEpLEpMEpNEqGErVErYEqNEqYEpOqOpPEpREpSEqHErYEqSHEpTEq",
    "HEqTEpUqUpVEpXEqVEqYEpYEqYEpZEqHEcOCADObXEaBABYe ANGELfBOTTLEfCHICKfSYMBOLcCK OF ENVELOPEfWI",
    "TH LEFTWARDS ARROW ABOVEe-TILTED SHADOWED WHITE RIGHTWARDS ARROWeSLANTED SOUTH ARROW WITH HO",
    "OKED TAILzgRIZONTAL TAILfPACEdONdTRIAN CAMELcDGERdMINTON RACQUET AND SHUTTLECOCKcGELdGAGE CL",
    "AIMdUETTE BREADcLINESE ADEG ADEGjCARIK PAMUNGKAHrRERENpSIKIjDIGIT EIGHTpFIVEqOURpNINEpONEpSE",
    "VENqIXpTHREEqWOpZEROjLETTER AIKARArKARAv TEDUNGrRCHAIC JNYArSYURA SASAKqBAs KEMBANGqCAs LACA",
    "qDAs MADUuURDA ALPAPRANAzaMAHAPRANAqEF SASAKrKARAqGAs GORAqHAqIKARAv TEDUNGqJAs JERAqKAs MAH",
    "APRANAsF SASAKrHOT SASAKqLAs LENGAy TEDUNGqMAqNAs RAMBATrGArYAqOKARAv TEDUNGqPAs KAPALqRAs R",
    "EPAx TEDUNGqSAs SAGAvPAqTAs LATIKtMURDA MAHAPRANAtTAWArZIR SASAKqUKARAv TEDUNGqVE SASAKqWAqY",
    "AqZAL SASAKjMUSICAL SYMBOL COMBINING BENDEzjENDEPzjGONGzjJEGOGANzjKEMPLIzp WITH JEGOGANznULz",
    "p WITH JEGOGANzjTEGEHyDAENGzbINGzbNGzd GEDEzeSURANGzaENGzbUNGzaINGzaONGzaUNGyLEFT-HAND CLOSE",
    "D PLAKzsUKzjOPEN PANGzpINGzpUNGyRIGHT-HAND CLOSED TAKzsUKzkOPEN DAGzqUGjPAMADAp LANTANGmENEN",
    "GlNTIo LANTANGjSIGN BISAHoCECEKoREREKANoSURANGoULU CANDRAsRICEMjVOWEL SIGN LA LENGAzd TEDUNG",
    "uPEPETza TEDUNGuRA REPAzc TEDUNGuSUKUy ILUTuTALINGzb REPAzg TEDUNGzcTEDUNGvEDUNGuULUx SARIjW",
    "INDUdL OF YARNeET SHOESeOONh-SPOKED ASTERISKfT BOLD SCRIPT XjXk WITH BALLOTrOLD CHECKvSCRIPT",
    " XqCHECKqLIGHT XqSCRIPT XqXhSCRIPT XhXcMUM COLONiMBINING MARK KOQNDONvTUKWENTISjMAgFULL STOP",
    "gLETTER AnEEnFAAMAEoEEoOMoUnInKAoENpTpUXoIoOpGHOMpVUUoPAoUoYEEnLAoEEEEoIoOQoUnMoAoBAApENoEEE",
    "EpNoIoOoUnNAoDAAoGApGApKWAENoIoJAEMpEEpUAEoSHAoTEEpUUoUpAEoYInOnPAoEEpUXoHASE-A FIRIvGBIEE F",
    "ONwHEUAEGHEUAEzcRAEvKAFAxQwETxUKEUTNDAwPOQwUOQvLAPAQwET KUTwOMMAEwUxAEPvMAEKEUPyMzaBGBIEEzaK",
    "PENzaVEUXyNYIySIxNSUAExP PIEETwBANYIyQwEUNJOMNDEUQwGBASAwON NGGEUAETxOMEUTzaPUQwVEUAENGAMvNA",
    "A MFONxQwDA LEERAEWAyANGGEUAETwENwGANGUxGENxKUE MFONzbNZEUMwIKAwJAMwKAARAExINDIwSHAyIEEwTAPz",
    "a MFAAzbNTAAxOQPENwYETxIyT MONGKEUAEQwZA MFONxUN MEUTvPA LEERAEWAxAMyRAExMSHAExSHAEwETwON MF",
    "ON PIPAEMBAzlGBIEEzaPA NJI PIPAEMBAznGBIEEwUPvROMvSEUNYAMwHINDA PA NJIyRAExOQ NSHUT YUMxUENS",
    "HUETyMwISAwONJAMxQxTwUUvTEUAENyTEUWENwITA MFONwU MAEMBAxAEPvU YUQ NAEwNKNOWNvVEEtB FEExUXvGH",
    "EUGHENzdUAEMvKAMwEUAEMyPUQyYEUXwIEEMxQvLAANAExM NSHUT NYAMwETwOM NTEUMvMAx NJEUAENAzbUQAwBA ",
    "MAELEEyARAExEURIxIT MBAAKETxUOQwEUQyT NGGEETwFIYAQxON TEUAEQwONTIEENvNDU NJAAwGGAAMyEU MBUyU",
    "OQzc LARGExKINDI MVOPxOMwSENxHUETwTIEE SHEUOQwYAEMAExI NTEUMvPARUMwEESHIwITwUNGAAMvSAKEUAEwE",
    "T TUwHET NJAQyUAEQTUwIEEwUEvTAAMwU MAEMGBIEEyNSIEEvVEUMvWUAETvYAFU LEERAEWAwEURAEtC BUNGvFUE",
    "vGBAYIwHAPyRAEvKAAwEN FATIGUEzaLAWxTxUKAQyMySEUXzaHEUAEPwPARAQwUOP NKAARAExTvLAMxPwIQwUvMA K",
    "EUAERIyNSIEExEMBAySIwBAA CABBAGE-TREEzbPICKETyNYIxEEKEETyRAEyUMzaXxIyRIEENyTxUAEMyEwGBASAQwI",
    "EEwUAEvNANSANAQxQwDAMyPxEUAEREEzaTxIDAxOMBUwGAQxGENyUzaAEN NYAMzaEETzaMzaONxKAQyUE MAEMBAxOM",
    "wJAEMyMxEEEEyUXxUEQwSAxEUAENxHAQxOMxUNyOT NGOMwTAAxENyUNGBAxU MBITwYIR MKPARAQ MEUNwZAxEUMvP",
    "ENwINxRIEENvRUvSETFONxUXwHIQxUEQwUAETvTAASHAEwETxUTEUXwITA YUEyUAEPvVEUAEPENyXvWANGKUOQwUPvY",
    "AAwEUQwU MUOMAExMxWOQtD FAAwEUFEUAETvGHAAxEUAEvKETxUAETMEUNyMyOT MBUAEyPwUxNxOMxQwWAETwYEEvL",
    "EEEExTxUAEPyMwIEEwOQwUMvMwAENJETxLEERIwBAAza SEVENxUOwEEEExUNyTwFEUAEzaTxIEExOyNwGBEUNyIEEyO",
    "FUMwONIwUwVOPvNDAMxEEyUXxONwGGAAMzcAEzaPyEUXyUOMyWAENxKAPyEUAEQzbRIyIEEyUNyYEEwIwJAPxEUAEMza",
    "TxIyEExUEQwSHEEyUTxIEEPzbTxUMwTEEyUMxUUwUwYAMxETxIxUEvPAPwEExUTAEwIPwUQxUTvRAEMwEN MUCHzaOLD",
    "wIIvSAPxQwEUAEQwHEEyUAEzaXxIIxOQxUwOTwUAExExUvTAEwEEEExUAENyNyTwIwOQwUxOTvWAPwUAENvYAEMMAEwE",
    "NwUOMyPxWOQtE AvFAxQwEEwOMwU CALLyIyREMEDYxEyTvGBETyUXwHAAMAExETyUAEzaNzaXxOMvIvKETxUAEyXwIw",
    "OwPEUXwUETxOPxTvLAAMxPxQwEUAEMwOMxONyTxQwUvMAxEyMxPxQwBEEyUMwENwFEUQwGBAyENwIxEEwONwUAEwVIvN",
    "AxEwDAA MY HOUSEzbSOFTNESSyPxIAQyQxUNwGAxEUREUTxGEEEEzaUAEzdTyUAESHAE NYAMzaPzaRAExKAzaAMIyE",
    "UAEMzbXyUMzaPxOPyQxUAEzbTwJAEMLIxEEza EPOCHyUXwKOMwSHIEEyUEzaOPwTAPxUMwYI BETWEENzaCLEAVERwZ",
    "AQxUQvOvPA PEOPLEzaLURALxAyMwEEMxUTyXwIxEEQyTwOxONwUxAEyQxExMvRAExQwEUXwIMGBAvSAAwEExTwHEUAE",
    "QxIQxOyQwOMwUAENvTAAyQxEN NTEUMxMxQwENxUyAEQwOOyNxQwUAExMyAEvVEExUAEwOMvWEUXwUExOvYAPwEUAEzb",
    "TyMyXwIEExTwOQ COVERzaSWIMMINGwUAENxEQxNxQtF EEvFOMvKAwENxTwOwPAwUwYEEvLAwIwOQvMwAwBAAxENwEE",
    "EEwOvNDAAwGGAxKWAENwIwJAEMxUAEwSHAwTEEwUxAEwYIvPEExUXwUAEvREExNxUXwIEExIwUvSAMBAwEUXwHIIxOxU",
    "wIwUUvTAAxEwETvUvVUEQvWAwUEvYAwOQoIoUAEpEnRAEoEEpNpUXoIEEpIoUnSAMBAoEUXoHEUXpIIpOpUoIoUUnTAA",
    "pEoENpToInUnWAoUEnYAoOQoUQgNJAEMLIgQUESTION MARKgSEMICOLONcNANAdJOdKeNOTE WITH DOLLAR SIGNoE",
    "URO SIGNoPOUND SIGNoYEN SIGNcR CHARTeOF SOAPdBER POLEcSEBALLdKETgBALL AND HOOPdSA VAH COMBIN",
    "ING HIGH TONEy-LOW TONEuLOW TONEx-MID TONEuMID TONEkFULL STOPkLETTER ArBArCErDHIIsOrEsEsNNIr",
    "FArGAHsBUrHWAHrIrJOrKAsPAHrMBErOsOrPArSErTOrUsWUrVUrWAtDDArYEINsIErZOcTdAK CONSONANT SIGN Hv",
    "NGgLETTER AnBAnCAnDAnGAnHAnInJAnKARO BAnLAnMApNDAILING HAyNAySAoBAnNAoDAoGAoORTHERN TAoYAnPA",
    "pKPAK WAnRAnSAoIMALUNGUN AyGAyHAyLAyMAyPAyRAySAyWAyYAoOUTHERN TAnUnWAnYAgPANGOLATjONGONANgSI",
    "GN TOMPIhYMBOL BINDU JUDULtNA METEKtPANGOLATuINARBORASgVOWEL SIGN EsErIrKARO IwOrOrPAKPAK Er",
    "Us FOR SIMALUNGUN SAdHeTUBdTERYbEACH WITH UMBRELLAdMED ASCENDING MUSICAL NOTEShDESCENDING MU",
    "SICAL NOTEShEIGHTH NOTEShSIXTEENTH NOTESdNSdR FACEeDED PERSONdTING HEARTdVERcCAUSEcDcER MUGd",
    "TLEcLdLe PEPPERfSYMBOLfWITH CANCELLATION STROKEeHOP BELLcNGALI ABBREVIATION SIGNjNJIjU LENGT",
    "H MARKiCURRENCY DENOMINATOR SIXTEENrNUMERATOR FOURzcONEzf LESS THAN THE DENOMINATORzcTHREEzd",
    "WOiDIGIT EIGHToFIVEpOURoNINEoONEoSEVENpIXoTHREEpWOoZEROiGANDA MARKiISSHARiLETTER AqAqIqUpBAq",
    "HApCAqHApDAqDArHAqHApEpGAqHApHApIqIpJAqHApKAqHAsNDA TApLApMApNAqGAqNAqYApOpPAqHApRAr WITH LO",
    "WER DIAGONALxMIDDLE DIAGONALqHAqRApSAqHAqSApTAqHAqTArHApUqUpVEDIC ANUSVARAqOCALIC LyLxRyRpYA",
    "qYAiRUPEE MARKoSIGNiSANDHI MARKjIGN ANUSVARAoVAGRAHAnCANDRABINDUnNUKTAnVIRAMApSARGAiVOWEL SI",
    "GN AAuIuUtEtIuItOtUuUtVOCALIC LzdLzcRzdRdT ARROW POINTING DOWNWARDS THEN NORTH EASTeO BOXdZE",
    "NE RINGm WITH CIRCLEcT SYMBOLdWEENcVERAGE BOXbHAIKSUKI DANDAlIGIT EIGHTqFIVErOURqNINEqONEqSE",
    "VENrIXqTHREErWOqZEROlOUBLE DANDAkGAP FILLER-1v2kHUNDREDS UNIT MARKkLETTER AsAsIsUrBAsHArCAsH",
    "ArDAsDAtHAsHArErGAsHArHArIsIrJAsHArKAsHArLArMArNAsGAsNAsYArOrPAsHArRArSAsHAsSArTAsHAsTAtHArU",
    "sUrVAsOCALIC LzaRzbRrYAkNUMBER EIGHTwYrFIFTYtVEsORTYtURrNINEvTYrONErSEVENwTYsIXuTYrTENsHIRTY",
    "tREEsWENTYtOkSIGN ANUSVARAqVAGRAHApCANDRABINDUpVIRAMArSARGAkVOWEL SIGN AAwIwUvEvIwIvOvUwUvVO",
    "CALIC LzeRzfRkWORD SEPARATORbICYCLEgISTcG REVERSE SOLIDUSeSOLIDUScKINIcLLED CAPeIARDScOHAZAR",
    "D SIGNcRDdTHDAY CAKEcSONcTCOIN SIGNdING LIPbLACK BOWTIEgCENTRE WHITE STARhHESS BISHOPs ROTAT",
    "ED NINETY DEGREESzcTWO HUNDRED SEVENTY DEGREESmEQUIHOPPERw ROTATED NINETY DEGREESmKINGq ROTA",
    "TED NINETY DEGREESzaTWO HUNDRED SEVENTY DEGREESnNIGHTs ROTATED FORTY-FIVE DEGREESzcNINETY DE",
    "GREESzcONE HUNDRED THIRTY-FIVE DEGREESzcTHREE HUNDRED FIFTEEN DEGREESzdWO HUNDRED SEVENTY DE",
    "GREESzoTWENTY-FIVE DEGREESs-BISHOPtQUEENtROOKmPAWNq ROTATED NINETY DEGREESzaTWO HUNDRED SEVE",
    "NTY DEGREESmQUEENr ROTATED NINETY DEGREESzbTWO HUNDRED SEVENTY DEGREESmROOKq ROTATED NINETY ",
    "DEGREESzaTWO HUNDRED SEVENTY DEGREESmTURNED BISHOPtKINGuNIGHTtPAWNtQUEENtROOKhIRCLEm FOR REC",
    "ORDnWITH DOWN ARROWsTWO WHITE DOTSsWHITE DOT RIGHThLUB SUIThROSS ON SHIELDhURVED DOWNWARDS A",
    "ND LEFTWARDS ARROWzcRIGHTWARDS ARROWnLEFTWARDS AND DOWNWARDS ARROWzcUPWARDS ARROWnRIGHTWARDS",
    " AND DOWNWARDS ARROWzdUPWARDS ARROWnUPWARDS AND LEFTWARDS ARROWzaRIGHTWARDS ARROWgDIAMONDn C",
    "ENTREDoMINUS WHITE XoON CROSSoSUIToWITH DOWN ARROWhOWN POINTING BACKHAND INDEXk-POINTING DOU",
    "BLE TRIANGLEuISOSCELES RIGHT TRIANGLEuSMALL TRIANGLEuTRIANGLEkWARDS EQUILATERAL ARROWHEADhRA",
    "UGHTS KINGpMANiOPLETgFLAGiORETTEhOLDERiUR POINTED STARgHARD SHELL FLOPPY DISKhEARTl SUITiXAG",
    "ONhORIZONTAL ELLIPSEiURGLASSgLARGE CIRCLEmSQUAREhEFT LANE MERGElPOINTING BACKHAND INDEXuINDE",
    "Xk-POINTING DOUBLE TRIANGLEzk WITH VERTICAL BARuISOSCELES RIGHT TRIANGLEuPOINTERuSMALL TRIAN",
    "GLEuTRIANGLEkWARDS BULLETqEQUILATERAL ARROWHEADhOWER LEFT TRIANGLEmRIGHT TRIANGLEiZENGEgMEDI",
    "UM DIAMONDoOWN-POINTING TRIANGLEzk CENTREDnLEFT-POINTING TRIANGLEzk CENTREDoOZENGEnRIGHT-POI",
    "NTING TRIANGLEzl CENTREDnSMALL DIAMONDtLOZENGEtSQUAREoQUAREnUP-POINTING TRIANGLEzi CENTREDhO",
    "ON LILITHgNIBgOCTAGONgPARALLELOGRAMhENNANTjTAGONhUSHPINgQUESTION MARK ORNAMENTgRECTANGLEhIGH",
    "T POINTING BACKHAND INDEXvINDEXl-POINTING DOUBLE TRIANGLEzl WITH VERTICAL BARvISOSCELES RIGH",
    "T TRIANGLEvPENTAGONwOINTERvSMALL TRIANGLEvTRIANGLEze WITH DOUBLE VERTICAL BARlWARDS ARROWwHE",
    "ADrBULLETrEQUILATERAL ARROWHEADhOSETTEgSAFETY SCISSORShCISSORShHOGI PIECEhKULL AND CROSSBONE",
    "ShLIGHTLY SMALL CIRCLEvSQUAREhMALL DIAMONDmLOZENGEmSQUAREnTARiILING FACEhNOWMANhPADE SUIThQU",
    "AREm BUTTONnCENTREDnFOR STOPhTARhUN WITH RAYSgTELEPHONEhINY DIAMONDlLOZENGElSQUAREhOUCHTONE ",
    "TELEPHONEhRUCKhWO-WAY LEFT WAY TRAFFICgUNIVERSAL RECYCLING SYMBOLhP POINTING BACKHAND INDEXi",
    "-POINTING DOUBLE TRIANGLEsISOSCELES RIGHT TRIANGLEsSMALL TRIANGLEsTRIANGLEiPER LEFT TRIANGLE",
    "mRIGHT TRIANGLEiWARDS EQUILATERAL ARROWHEADgVERTICAL ELLIPSEpRECTANGLEjY SMALL DIAMONDrLOZEN",
    "GErSQUAREf-FEATHERED NORTH EAST ARROWqRIGHTWARDS ARROWqSOUTH EAST ARROWgLETTER CAPITAL CvHvI",
    "vRvZdNK SYMBOLcOCK SEXTANT-1p2q3r4s5s6r5s6r6q4r5s6r6q5r6q6p3q4r5s6r6q56q6p4q5r6q6p5q6p6o2p3q",
    "4r5s6r6q5r6q6p4q5r6p5q6p6o3p4q5r6q6p5q6p6o4p5q6p6o5p6o6dSSOMdWFISHcUE BOOKfHEARTeBERRIESbOAR",
    "cLD EIGHT SPOKED ASTERISKfFIVE SPOKED ASTERISKfGREEK CROSSfSALTIREgIX SPOKED ASTERISKfWHITE ",
    "CIRCLElSQUAREcMdBcNEcOKeMARKi TABSeSdMERANGcPOMOFO FINAL LETTER GwHwKwPwTjLETTER ArHrIsNNrMr",
    "NsGsNrUsNNqBrUqCrHqDqErErHrIrNsGsNrRqFqGrHrNrUrWqHqIrHrMrNNtNrRrUqJrIqKrWqLrHqMqNrGsGrNqOr W",
    "ITH DOT ABOVErErMrNGsNrOrUqPqQqRqSrHqTqUrNNqVqXqZrHrIrYcTTLE WITH POPPING CORKeOM ARC ANTICL",
    "OCKWISE ARROWhCURLY BRACKEThHALF BLACK CIRCLEmINTEGRALmLEFT PARENTHESISmRIGHT PARENTHESIShLE",
    "FT CORNERnROPmHALF BRACKEThPARENTHESIShRIGHT CORNERoROPnHALF BRACKEThSQUARE BRACKETv OVER TO",
    "P SQUARE BRACKEThTORTOISE SHELL BRACKETcUQUETh OF FLOWERScW AND ARROWdL OF HYGIEIAfWITH SPOO",
    "NeINGdTIEg WITH LEFT HALF BLACKmRIGHT HALF BLACKcX DRAWINGS DOUBLE DOWN AND HORIZONTALzeLEFT",
    "zeRIGHTuHORIZONTALuUP AND HORIZONTALzcLEFTzcRIGHTuVERTICALzd AND HORIZONTALziLEFTziRIGHTpWN ",
    "DOUBLE AND HORIZONTAL SINGLEzeLEFT SINGLEzeRIGHT SINGLEsHEAVY AND HORIZONTAL LIGHTzdLEFT LIG",
    "HTziUP LIGHTzdRIGHT LIGHTzjUP LIGHTzdUP HORIZONTAL LIGHTsLIGHT AND HORIZONTAL HEAVYzdLEFT HE",
    "AVYziUP HEAVYzdRIGHT HEAVYzjUP HEAVYzdUP HORIZONTAL HEAVYsSINGLE AND HORIZONTAL DOUBLEzeLEFT",
    " DOUBLEzeRIGHT DOUBLEnHEAVY DOUBLE DASH HORIZONTALzgVERTICALvWNx AND HORIZONTALzdLEFTzdRIGHT",
    "tHORIZONTALtLEFTx AND LIGHT RIGHTtQUADRUPLE DASH HORIZONTALzjVERTICALtRIGHTtTRIPLE DASH HORI",
    "ZONTALzgVERTICALtUPv AND HORIZONTALzbLEFTzcIGHT DOWNzbRIGHTtVERTICALzc AND HORIZONTALzhLEFTz",
    "hRIGHTnLEFT DOWN HEAVY AND RIGHT UP LIGHTsHEAVY AND RIGHT DOWN LIGHTzjUP LIGHTzjVERTICAL LIG",
    "HTsLIGHT AND RIGHT DOWN HEAVYzjUP HEAVYzjVERTICAL HEAVYsUP HEAVY AND RIGHT DOWN LIGHToIGHT A",
    "RC DOWN AND LEFTzhRIGHTxUP AND LEFTzfRIGHTtDIAGONAL CROSSzdDIAMONDzdMIDDLE LEFT TO LOWER CEN",
    "TREzzf TO MIDDLE RIGHTzsUPPER CENTRE TO MIDDLE RIGHTzzv TO LOWER CENTREzkRIGHT TO LOWER CENT",
    "REztUPPER CENTRE TO MIDDLE LEFT TO LOWER CENTREzdUPPER CENTRE TO MIDDLE LEFTzzf AND MIDDLE R",
    "IGHT TO LOWER CENTREzzgTO LOWER CENTREzzv TO MIDDLE RIGHTzzbRIGHTzzg AND MIDDLE LEFT TO LOWE",
    "R CENTREzzhTO LOWER CENTREzzw TO MIDDLE LEFTzjLEFT TO LOWER RIGHTzjRIGHT TO LOWER LEFTuOUBLE",
    " DASH HORIZONTALzgVERTICALvWNx AND HORIZONTALzdLEFTzdRIGHTtHORIZONTALze WITH VERTICAL STROKE",
    "tLEFTx AND HEAVY RIGHTtQUADRUPLE DASH HORIZONTALzjVERTICALtRIGHTtTRIPLE DASH HORIZONTALzgVER",
    "TICALtUPv AND HEAVY DOWNzcORIZONTALzbLEFTzbRIGHTtVERTICALzc AND HORIZONTALzhLEFTzhRIGHTnRIGH",
    "T DOWN HEAVY AND LEFT UP LIGHTtHEAVY AND LEFT DOWN LIGHTzjUP LIGHTzjVERTICAL LIGHTtLIGHT AND",
    " LEFT DOWN HEAVYzjUP HEAVYzjVERTICAL HEAVYtUP HEAVY AND LEFT DOWN LIGHTnUP DOUBLE AND HORIZO",
    "NTAL SINGLEzcLEFT SINGLEzcRIGHT SINGLEqHEAVY AND DOWN HORIZONTAL LIGHTzbHORIZONTAL LIGHTzbLE",
    "FT DOWN LIGHTzgLIGHTzbRIGHT DOWN LIGHTzhLIGHTqLIGHT AND DOWN HORIZONTAL HEAVYzbHORIZONTAL HE",
    "AVYzbLEFT DOWN HEAVYzgHEAVYzbRIGHT DOWN HEAVYzhHEAVYqSINGLE AND HORIZONTAL DOUBLEzcLEFT DOUB",
    "LEzcRIGHT DOUBLEnVERTICAL DOUBLE AND HORIZONTAL SINGLEziLEFT SINGLEziRIGHT SINGLEwHEAVY AND ",
    "HORIZONTAL LIGHTzhLEFT LIGHTzhRIGHT LIGHTwLIGHT AND HORIZONTAL HEAVYzhLEFT HEAVYzhRIGHT HEAV",
    "YwSINGLE AND HORIZONTAL DOUBLEziLEFT DOUBLEziRIGHT DOUBLEdING GLOVEcYdS SYMBOLbPHbRAHMI DAND",
    "AiIGIT EIGHTnFIVEoOURnNINEnONEnSEVENoIXnTHREEoWOnZEROiOUBLE DANDAhLETTER ApApIpUoBApHAoCApHA",
    "oDApDAqHApHAoEoGApHAoHAoIpIoJApHAoKApHAoLApLAoMAoNApGApNApYAoOpLD TAMIL LLAzbLAyNNNAyRRAySHO",
    "RT EzfOoPApHAoRAoSApHApSAoTApHApTAqHAoUpUoVApOCALIC LxLwRxRoYAhNUMBER EIGHTtYoFIFTYqVEpORTYq",
    "URoJOINERoNINEsTYoONEr HUNDREDsTHOUSANDoSEVENtTYpIXrTYoTENpHIRTYqREEpWENTYqOhPUNCTUATION CRE",
    "SCENT BARtDOTvUBLE DOTtLINEuOTUShSIGN ANUSVARAmCANDRABINDUmJIHVAMULIYAmOLD TAMIL VIRAMAmUPAD",
    "HMANIYAmVISARGAhVIRAMAiOWEL SIGN AAtItUsBHATTIPROLU AAsEsItIsOtLD TAMIL SHORT EzjOsUtUsVOCAL",
    "IC LzcLzbRzcRdILLE PATTERN BLANKqDOTS-1w2x3y4za5zb6zc7zd8zc8zb7zc8zb8za6zb7zc8zb8za7zb8za8y5",
    "za6zb7zc8zb8za7zb8za8y6za7zb8za8y7za8y8x4y5za6zb7zc8zb8za7zb8za8y6za7zb8za8y7za8y8x5y6za7zb8",
    "za8y7za8y8x6y7za8y8x7y8x8w3x4y5za6zb7zc8zb8za7zb8za8y6za7zb8za8y7za8y8x5y6za7zb8za8y7za8y8x6",
    "y7za8y8x7y8x8w4x5y6za7zb8za8y7za8y8x6y7za8y8x7y8x8w5x6y7za8y8x7y8x8w6x7y8x8w7x8w8v2w3x4y5za6",
    "zb7zc8zb8za7zb8za8y6za7zb8za8y7za8y8x5y6za7zb8za8y7za8y8x6y7za8y8x7y8x8w4x5y6za7zb8za8y7za8y",
    "8x6y7za8y8x7y8x8w5x6y7za8y8x7y8x8w6x7y8x8w7x8w8v3w4x5y6za7zb8za8y7za8y8x6y7za8y8x7y8x8w5x6y7",
    "za8y8x7y8x8w6x7y8x8w7x8w8v4w5x6y7za8y8x7y8x8w6x7y8x8w7x8w8v5w6x7y8x8w7x8w8v6w7x8w8v7w8v8eNcE",
    "ADeK PERMITTED HEREeST-FEEDINGdVEcICKdDE WITH VEILeGE AT NIGHTdEFCASEfScOCCOLIdKEN BARhCIRCL",
    "E WITH NORTHWEST ARROWhHEARTdOMdWN HEARTbSbUBBLE TEAgScCKETcGdINESE END OF SECTIONjLETTER Aq",
    "BAqCAqDAqGAqHAqJAqKAqLAqMArPAqNArGAsKArRArYAsCAqPAqRAqSAqTAqVAqYAjPALLAWAjVOWEL SIGN AEuEuIu",
    "OuUcHID LETTER AnBAnDAnGAnHAnInKAnLAnMAnNAoGAnPAnRAnSAnTAnUnWAnYAgVOWEL SIGN IrUcILDING CONS",
    "TRUCTIONcLLETg OPERATOReHORNi WITH SOUND WAVESeSEYEcRRITOcSd STOPdT IN SILHOUETTEeS IN SILHO",
    "UETTEcTTERgFLYbYTE ORDER MARKcZANTINE MUSICAL SYMBOL AGOGI ARGIzjOTERIzgGORGIzkOTERIzgMESIzi",
    "TRIAzgPOLI ARGIzlGORGIzbNATRICHISMAzcTIKENOKYLISMAziMAzbPESO EKFONITIKONzhXO NEOzcLIzcODERMA",
    " ARCHAIONzjNEOzdSTROFOI SYNDESMOS NEOzlTELOUS ICHIMATOSzjSzk DIPLIzlNEOzdTHEMAzbRGONzeSYNTHE",
    "TONzcKTIKO DIziGAziKEziNIziPAziVOUziZOzaCHAMILIzgONzcOREVMA ARCHAIONzjNEOzcROA KLITONzgSPATH",
    "IzgZYGOSzaDASEIAzbIARGONzdSTOLI APLI MEGALIzpIKRIzjDIPLIzjTHESEOSzcESIS APLI DYO DODEKATAzhD",
    "IGRAMMOS EX DODEKATAzhMONOGRAMMOS TESSERA DODEKATAzhTETARTIMORIONziRIGRAMMOS OKTO DODEKATAzk",
    "TIMORIONzcFTOGGOS OUzcGORGONzi PARESTIGMENON ARISTERA ANOzzhKATOzxDEXIAzdRAMMA GGzcPLIzf ARC",
    "HAIONzbYOzaEKSTREPTONzbLAFRONzbNARXIS KAI FTHORA VOUzcDOFONONzbPEGERMAzbTERON ARGOSYNTHETONz",
    "hPARAKALESMAzbXO EKFONITIKONzaFANEROSIS DIFONIASzkMONOFONIASzkTETRAFONIASzbHTORA SKLIRON CHR",
    "OMA VASISzbTHORA ARCHAIONzp DEYTEROU ICHOUzhDIATONIKI DIzrKEzrNANAzsI ANOzuKATOzrPAzrZOzhENA",
    "RMONIOS ANTIFONIAzhI YFESIS TETARTIMORIONzhMALAKON CHROMA DIFONIASzwMONOFONIASzhNAOS ICHOSzi",
    "ENANOzhSKLIRON CHROMA SYNAFIzwVASISzpDIATONON DIzaGENIKI DIESISzhYFESISzbORGON ARCHAIONzhNEO",
    " ANOzlKATOzhPARESTIGMENON ARISTERAzvDEXIAzfSYNTHETONzdTHMIKON N APLOUNznDIPLOUNzbRONTHISMATA",
    "zaICHADINzbMIDIARGONzdFONONzeTHORAziONzbSAKIA TELOUS ICHIMATOSzcON ARCHAIONzfNEOzaKATAVA TRO",
    "MIKONzgSMAzdHISTIzbENTIMA ARCHAIONziNEO ANOzmKATOzmMESOzhTAzj ARCHAIONzkNEO ANOzoKATOzoMESOz",
    "bLASMAzg ANOzhKATOzbONTEVMAzi ALLOzcRONISzcUFISMAzbRATIMA ALLOzjRCHAIONziNEOzhTAzgOKOUFISMAz",
    "hYPORROONzcEMASTIzbYLISMAzaLEIMMA DYO CHRONONzhENOS CHRONOUzhIMISEOS CHRONOUzhTESSARON CHRON",
    "ONziRION CHRONONzcMOIzbYGISMAzaMARTYRIA ALLI DEYTEROS ICHOSzoPROTOS ICHOSzjDEYTEROS ICHOSzjL",
    "EGETOS ICHOSzjPLAGIOS ICHOSzrTETARTOS ICHOSzkROTOS ICHOSzoVARYS ICHOSzjTETARTOS ICHOSzsLEGET",
    "OS ICHOSzkRIFONIASzmTOS ICHOSzjVARYS ICHOSzbIKRON ISONzaNANAzaOLIGON ARCHAIONzhNEOzbMALONzbX",
    "EIA DIPLIzgEKFONITIKONzgNEOzfI ARCHAIONzbYRANISMA ARCHAIONzkNEOzaPARAKALESMA ARCHAIONzmNEOzf",
    "LITIKIzl ARCHAIONzmNEOzdICHONzbELASTONzi NEOzcRISPOMENIzcTASMAzfTIzgOKOUFISMAzbIASMA ARCHAIO",
    "NzhNEOzbSIFISTOLYGISMAziNzj NEOziPARAKALESMAziSYNAGMAzdLIzeONzaRAPISMAzbEVMAzaSAXIMATAzbEISM",
    "Azg NEOzbIMANSIS ARSEOSzp DISIMOUzqTETRASIMOUzrRISIMOUzjTHESEOSzq DISIMOUzrTETRASIMOUzsRISIM",
    "OUzbTAVROSzh APODEXIAzcIGMAzcRAGGISMATAzbYNAGMA ARCHAIONziMETA STAVROUziNEOzdEVMAzcRMAzfTIKI",
    "zaTELEIAzcSSERAzcTRAPLIzbHEMAzf APLOUNzfTISMOS ESOznXOzdS KAI APOTHESzcITAzbINAGMAzbRIAzdGOR",
    "GONzdPLIzcOMIKOLYGISMAzhN ALLOzkRCHAIONzjNEOzhPARAKALESMAziSIFISTONzhSYNAGMAzaVAREIA DIPLIzh",
    "EKFONITIKONzhNEOzgI ARCHAIONzcTHYzaXIRON KLASMAzaYFEN ANOzfKATOzdSIS APLI DYO DODEKATAzhDIGR",
    "AMMOS EX DODEKATAzhMONOGRAMMOS TESSERA DODEKATAzhTRIGRAMMOS OKTO DODEKATAzkTIMORIONzbPOKRISI",
    "Szj DIPLIzdRROIzcSILIaCACTUScDA UNAdUCEUScLENDARdL ME HANDcMERAg WITH FLASHdPINGcNdADIAN SYL",
    "LABICS AuAvIvYuIvVILIK BuNuTHAPASCAN MzfSuYtBEAVER DENE LzgRuIBLE-CREE YuLACKFOOT AzeEzeIzeK",
    "AzfEzfIzfOzeNAzfEzfIzfOzeOzeSzeWzfAzfEzfIzfOtCuAvAwIvRRIER CHAzeEzfEzeIzeOzeUzcDEEzeNE GEEzf",
    "TAL SzdIzdLAzeEzfEzeIzeOzeUzdZAzeEzfEzeIzeOzeUzcEEzcGAzeAzdEzeEzdHAzeEzfEzeIzeOzeUzdIzdOzdUz",
    "dWAzeUzcHzdEEzdIzdWAzeEzfEzeIzeOzeUzcIzdNITIAL ZzcJAzdEzeEzdIzdJAzeEzfEzeIzeOzeUzdOzdUzdWAzc",
    "KHAzeEzfEzeIzeOzeUzdKzeAzeEzfEzeIzeOzeUzcLAzdEzeEzdHAzeEzfEzeIzeOzeUzdIzdOzdUzcMAzdEzeEzdIzd",
    "OzdUzcNAzdEzeEzdGzdIzdOzdUzcPzdAzdEzeEzdIzdOzdUzcRAzdEzeEzdIzdOzdUzcSAzdEzeEzdHzeAzeEzfEzeIz",
    "eOzeUzdIzdOzdUzcTHAzeEzfEzeIzeOzeUzdLAzeEzfEzeHAzfEzgEzfIzfOzfUzeIzeOzeUzdSAzeEzfEzeIzeOzeUz",
    "dTAzeEzfEzeIzeOzeSAzfEzgEzfIzfOzfUzeUzcWAzdEzeEzdIzdOzdUzcYAzdEzeEzdIzdOzdUzcZzdAzdEzeEzdIzd",
    "OzdUuEuHI SIGNuIvIuOvOuWAwAvEvIwIvOwOtEuASTERN WuNtFuAvAwIuEuIvIvNAL ACUTEzaBOTTOM HALF RING",
    "zaDOUBLE ACUTEzhSHORT VERTICAL STROKESzcWN TACKzaGRAVEzaMIDDLE DOTzaPLUSzaRAISED DOTzbIGHT H",
    "ALF RINGzcNGzaSHORT HORIZONTAL STROKEzbMALL RINGzaTOP HALF RINGuOvOuULL STOPuWAAtGLOTTAL STO",
    "PtHKuYPHENtIuIuNtKuAvAwIvYuEuIvIuOvOuWvAwAwYvEvIwIvOwOtLuAvAwIvYuEuHvAwAvIwIvOwOuIvIuOvOuWAw",
    "AvEvIwIvOwOtMuAvAwIvYuEvDIAL LzbRuHuIvIuOvOwSE-CREE SKuWAwAvEvIwIvOwOtNu-CREE THEzdIzeIuAvAw",
    "IvSKAPI CWAAzcKWAAzcMWAAzcNWAAzcS-WzdCWAzdKWzfAzdPWAzdTWAzdWAAzcTWAAzcWAAzdOOzcYWAAvTTILIK H",
    "AzfAzeIzfIzeOzfOzdSHRAzhAzgIzhIzgOzhOvYuEuGvAwAxIwIvIwIvOwOuHuIvIuNGwAxAwIxIwOxOuOvOvYuUNAVI",
    "K HzdAzeAzdEzdIzeIzdOzeOyUT HuWAwAvEvIwIvOwOtOuJIBWAY CzcKzcMzcNzdWIzfIzeOzfOzcPzcSzdHzcTuNu",
    "OuYtPuAvAwIvYuEuIvIuOvOvYuWAwAvEvIwIvOwOwYtQuAvAwIvIuIvIuOvOtRu-CREE REzcWEuAvAwIvYuEuIvIuOv",
    "OuWAwAvEEvIwIvOwOtSuAvAwIvYwISI HAzcEzcIzcOzdOzbJIzcUzdUzbMzbSHAzdEzdIzdOzeOzdWEzbTHzbYIuEuH",
    "vAwAwYvEvIwIvOwOwYvWAxAwEwIxIwOxOxYuIvIuOvOvUTH-SLAVEY KAHziEHziIHziOHvYuPAvEvIvOuWvAwAvEvIw",
    "IvOwOtTuAvAwIvYuEuHv-CREE THzeAzfAzeEzeIzfIzeOzfOvAwAvEvIwIvOwOvWAxAwEuIvIuLHAwEwIwOxOwWEuOv",
    "OuTAvEvHwAxAwEwIwOxOwWEvIvOuWAwAvEvIwIvOwOuYAvEvIvOtWAvAvYuEvST-CREE CWAzhAzgEzgIzhIzgOzhOze",
    "FWAAzeKWAzhAzgEzgIzhIzgOzhOzeLzfAzgAzfEzfOzgOzfWAzhAzgEzgIzhIzgOzhOzeMzfWAzhAzgEzgIzhIzgOzhO",
    "zeNWAzhAzgEzePzfWAzhAzgEzgIzhIzgOzhOzeRzfAzfEzfIzfOzfWAAzeSHWAziAzhEzhIziIzhOziOzfWAzhAzgEzg",
    "IzhIzgOzhOzeTHWAAzfWAzhAzgEzgIzhIzgOzhOzeWAzgAzfEzfIzgIzfOzgOzeYzfWAzhAzgEzgIzhIzgOzhOxERN W",
    "uIvIuOvOwDS-CREE FINAL THzfTHzhAzhEzhIzhOzhWAzjAziEEziIzjIziOzjOtYu-CREE COOzbKOOzbLOOzbMOOz",
    "bNOOzbOOzbPOOzcWAAzbSOOzbTOOzbWzbYOOuAvAwIvYuEuIvIuOvOvYuWAwAvEvIwIvOwOdCELg CHARACTERhTAGgL",
    "ATION XfRdDLEeYdNED FOODdOEcPITULUMdRICORNcR SLIDINGdD FILE BOXfINDEXk DIVIDERSdE OFeTf INSE",
    "RTION POINTdIAN LETTER Ap2oBoC-18q39oDp2oEp2oGp2oIpIoKp2oLpDq2oMpBq2q3q4oNpDpGpNoOoPp2oQoRpR",
    "oSpHq2pSpTq2oTpTq2oUpUqUr2r3rUoXdONeUSEL HORSEdP STREAMEReENTRY SAWdRIAGE RETURNeOTcSTLEcTd ",
    "FACEi WITH TEARS OF JOYoWRY SMILEcUCASIAN ALBANIAN CITATION MARKtLETTER ALTzcORzbBETzbCARzdY",
    "NzcHAzeTzdIzdOYzcYAWzeYzbDATzcYANzcZAYzdYAYzbEBzcYNzbFAMzbGHEYSzcIMzbHEYTzbINYAzcRBzcWNzbJAY",
    "NzcHOXzbKARzcIWzbLANzcYITzbMAQzbNOWCzbONzbPENzcIWRzbQARzdYzbRATzbSEYKzcHAzeKzdOYzbTASzcIWRzc",
    "YAYzbVEYZzbXEYNzbYAYDzcOWDzbZARLzcHAzdILdTION SIGNbCHbEDI SIGNeLLAcLTIC CROSScNT SIGNeRE LIN",
    "E SYMBOLgLINE LOW LINElOVERLINEcRESbGJbHAINSeRdKMA AU MARKhDANDAiIGIT EIGHTnFIVEoOURnNINEnON",
    "EnSEVENoIXnTHREEoWOnZEROiOUBLE DANDAhLETTER AAoBAApHAAoCAApHAAoDAApDAAqHAApHAAoEoGAApHAAoHAA",
    "oIoJAApHAAoKAApHAAoLAApHAAoMAAoNAApGAApNAApYAAoPAApHAAoRAAoSAAoTAApHAApTAAqHAAoUoVAAoWAAoYAA",
    "pYAAhMAAYYAAhO MARKhQUESTION MARKhSECTION MARKiIGN ANUSVARAmCANDRABINDUmVISARGAhVIRAMAiOWEL ",
    "SIGN AtAtItUsEtIsItIsOtIsUtUdM CONSONANT SIGN FINAL HzbMzbNGuLAuRAuWAuYAfDIGIT EIGHTlFIVEmOU",
    "RlNINElONElSEVENmIXlTHREEmWOlZEROfLETTER AnImBAnBAnHAmCHAoHAmDAnDAnHAmEmFINAL CHsGsKsLsNtGsP",
    "sRsSSsTsYmGAnHAmHAmImJAnHAmKAnHAmLAmMAnUEmNAnGAoUEnHAoJAoUEnUEmOmPAnHAnPAmRAmSAnSAmTAnHAmUmV",
    "AmYAfPUNCTUATION DANDAsOUBLE DANDArSPIRALrTRIPLE DANDAfVOWEL SIGN AArIrUqEIqIrIqOrEqUrEdRACT",
    "ER TABULATIONu SETvWITH JUSTIFICATIONlIEeT WITH DOWNWARDS TRENDlUPWARDS TRENDy AND YEN SIGNc",
    "ECK MARKfER BOARDn FILLdERING MEGAPHONEeSE WEDGEdQUERED FLAGdROKEE LETTER AqDArErIrLArOrUrVq",
    "EqGArErIrOrUrVqHArErIrNArOrUrVqIqKAqLArErIrOrUrVqMArErIrOrUrVqNAsHrErIrOrUrVqOqQUAsEsIsOsUsV",
    "qSrArErIrOrUrVqTArErIrLAsEsIsOsUsVrSAsEsIsOsUsVqUqVqWArErIrOrUrVqYArErIrOrUrVjSMALL LETTER A",
    "wDAxExIxLAxOxUxVwEwGAxExIxOxUxVwHAxExIxNAxOxUxVwIwKAwLAxExIxOxUxVwMAxExIxOxUxVwNAyHxExIxOxUx",
    "VwOwQUAyEyIyOyUyVwSxAxExIxOxUxVwTAxExIxLAyEyIyOyUyVxSAyEyIyOyUyVwUwVwWAxExIxOxUxVwYAxExIxOxU",
    "xVeRIESfY BLOSSOMdSTNUTcI RHOdCKENdLDfREN CROSSINGdPMUNKdRONcOCOLATE BARdPSTICKSdRASMIAN LET",
    "TER ALEPHtYINsBETHsCURLED WAWsDALETHsGIMELsHEuTHsKAPHsLAMEDHsMEMsNUNsPEsRESHsSAMEKHtHINtMALL",
    " ALEPHsTAWsWAWsYODHsZAYINlNUMBER FOURsONEv HUNDREDsTENtHREEtWENTYuOcRISTMAS TREEcURCHbINEMAc",
    "RCLE DIVIDED BY HORIZONTAL BAR AND TOP HALF DIVIDED BY VERTICAL BARhWITH ALL BUT UPPER LEFT ",
    "QUADRANT BLACKmHORIZONTAL BARmLEFT HALF BLACKnOWER HALF BLACKmRIGHT HALF BLACKmSMALL CIRCLE ",
    "TO THE RIGHTnUPERIMPOSED XmTWO HORIZONTAL STROKES TO THE RIGHTmUPPER HALF BLACKsRIGHT QUADRA",
    "NT BLACKmVERTICAL FILLgD ANTICLOCKWISE ARROWv-ROTATED DIVISION SIGNjSTERISK OPERATORiBOLD Xj",
    "ULLETiC WITH OVERLAID BACKSLASHjCjDjROSS FORMEEu WITH FOUR DOTSzbTWO DOTSoPOMMEEnING LANESiD",
    "ASHjIGIT EIGHToFIVEpOURoNINEoONEoSEVENpIXoTHREEpWOoZEROkVISION SIGNsLASHjOLLAR SIGN WITH OVE",
    "RLAID BACKSLASHkT OPERATORiEQUALSiGREATER-THANiHANGUL CHIEUCHw AqIEUCu ApHIEUHu ApIEUNGu AvU",
    "pKHIEUKHw AqIYEOKv ApMIEUMu ApNIEUNu ApPHIEUPHw AqIEUPu ApRIEULu ApSIOSt ApTHIEUTHw AqIKEUTv",
    " AjEAVY WHITE RIGHTWARDS ARROWjORIZONTAL BAR WITH NOTCHjUMAN FIGUREiIDEOGRAPH ACCEPTtDVANTAG",
    "EtLLIANCEtTTENTIONsCENTREtONGRATULATIONuPYuRRECTsEARTHtIGHTtNTERPRISEtXCELLENTsFEMALEtINANCI",
    "ALuREuVEtOURsHAVEtIGHsITEMsKINDERGARTENtOTOsLABORtEFTtOWsMALEtEDICINEuTALtOONsNAMEtIGHTuNEsO",
    "NEsPRINTsQUESTIONsRELIGIONuSOURCEvTtIGHTsSCHOOLtECRETuVENtIXtOCIETYtPECIALtTOCKuUDYtUITABLEu",
    "NuPERVISEsTENtHREEtWOsWATERtOODjNFORMATION SOURCEjTALIC LATIN CAPITAL LETTER CzlRiKATAKANA A",
    "rErHAsEsIsOsUrIrKAsEsIsOsUrMAsEsIsOsUrNAsEsIsOsUrOrRAsEsIsOsUrSAsEsIsOsUrTAsEsIsOsUrUrWAsEsI",
    "sOrYAsOsUjOREAN CHARACTER CHAMKOzaJUEUIiLATIN CAPITAL LETTER AzeBzeCzeDzeEzeFzeGzeHzeIzeJzeK",
    "zeLzeMzeNzeOzePzeQzeRzeSzeTzeUzeVzeWzeXzeYzeZoSMALL LETTER AzcBzcCzcDzcEzcFzcGzcHzcIzcJzcKzc",
    "LzcMzcNzcOzcPzcQzcRzcSzcTzcUzcVzcWzcXzcYzcZjESS-THANiMINUSjULTIPLICATION SIGN WITH CIRCUMFLE",
    "X ACCENTiNUMBER EIGHTEENuY ON BLACK SQUAREqLEVENpFIFTEENtYu ON BLACK SQUAREqORTYu EIGHTvFIVE",
    "wOURvNINEvON BLACK SQUARExEvSEVENwIXvTHREEwWOrURTEENpNINETEENpSEVENTEENvY ON BLACK SQUAREqIX",
    "TEENtY ON BLACK SQUAREpTENs ON BLACK SQUAREqHIRTEENuYv EIGHTwFIVExOURwNINEwON BLACK SQUAREyE",
    "wSEVENxIXwTHREExWOqWELVEsNTYv EIGHTwFIVExOURwNINEwON BLACK SQUAREyEwSEVENxIXwTHREExWOiOPEN C",
    "ENTRE EIGHT POINTED STARiPARALLELjERPENDICULARjLUSjOSTAL MARKiREVERSE SOLIDUSjING OPERATORiS",
    "QUAREiTIMESjRIANGLEq DOWNiVERTICAL BARiWHITE BULLEToSTARjZiXiZERO WITH SLASHeULATION FUNCTIO",
    "NfMFLEX ACCENTfS TENTcTYSCAPEj AT DUSKbJK RADICAL BAMBOOnLUEnOLT OF CLOTHoNEoXnRUSH ONEsTWOm",
    "C-SIMPLIFIED BIRDzaCARTzaDRAGONzaEATzbVENzaFISHzbLYzbROGzaGATEzbOLDzaHORSEzaLEAFzbONGzaSALTz",
    "bEEzbHELLzbILKzbPEECHzaTANNED LEATHERzbOOTHzbURTLEzaWINDnHOKEnITYoVILIANnLIFFoOTHESnOWmDEATH",
    "nIVINATIONnOGmEAT ONEqTHREErWOnWEnYEmFIREnOOTmGHOSTnRASS ONEsTHREEtWOmHANDnEADpRT ONEsTWOnOR",
    "NmJ-SIMPLIFIED DRAGONzaEVENzaTOOTHzbURTLEnADEmKNIFE ONEsTWOmLAME FOURrONErTHREEsWOnONG ONErT",
    "WOmMEAToSHnOONoRTARoTHERoUND ONEsTWOmNET FOURqONEqTHREErWOmOLDmPAW ONEqTWOnERSONmRAINoMoPnEP",
    "EATmSEALoCOND ONEtTHREEuWOnHEEPnILKoMPLIFIED HALF TREE TRUNKyORNxWALKyHEATxYELLOWnMALL ONEsT",
    "WOnNAKEoOUT ONEsTWOnPIRIT ONEtTWOnUNmTABLEnHREADnIGERnURTLEmWALK ONErTWOoTER ONEsTWOnEST ONE",
    "rTWOeSTROKE BXGlDlHmGmPnWGmXWGmZnGnTnWoGnZoPoZpGlNlPmDmGmZlQlSmGmPmTmWnGnZmZnWGnZlTmNlWGlXGb",
    "LAMSHELL MOBILE PHONEdPPER BOARDfING HANDS SIGNdSSICAL BUILDINGcEAR SCREEN SYMBOLcINKING BEE",
    "R MUGSjGLASSESdPBOARDcOCK FACE EIGHT OCLOCKq-THIRTYmLEVEN OCLOCKr-THIRTYlFIVE OCLOCKp-THIRTY",
    "mOUR OCLOCKp-THIRTYlNINE OCLOCKp-THIRTYlONE OCLOCKo-THIRTYlSEVEN OCLOCKq-THIRTYmIX OCLOCKo-T",
    "HIRTYlTEN OCLOCKo-THIRTYmHREE OCLOCKq-THIRTYmWELVE OCLOCKr-THIRTYnO OCLOCKo-THIRTYfWISE CLOS",
    "ED CIRCLE ARROWlONTOUR INTEGRALkDOWNWARDS AND UPWARDS OPEN CIRCLE ARROWSkGAPPED CIRCLE ARROW",
    "kINTEGRALkOPEN CIRCLE ARROWkRIGHT AND LEFT SEMICIRCLE ARROWSpWARDS AND LEFTWARDS OPEN CIRCLE",
    " ARROWSzzd WITH CIRCLED ONE OVERLAYkTOP SEMICIRCLE ARROWlRIANGLE-HEADED OPEN CIRCLE ARROWdSE",
    " UPfD BOOKhINTERSECTION WITH SERIFShLOCK WITH KEYhMAILBOX WITH LOWERED FLAGuRAISED FLAGhSUBS",
    "ETn OR EQUAL TOjPERSETp OR EQUAL TOhUMBRELLAiNION WITH SERIFSy AND SMASH PRODUCTdUDf WITH LI",
    "GHTNINGlRAINlSNOWlTORNADOdWN FACEbOATcCKROACHeTAIL GLASSdONUTcFFINcINcLLISION SYMBOLdONf EQU",
    "ALSgSIGNcMBINING ACUTE ACCENTw BELOWqTONE MARKp-GRAVE-ACUTEqMACRONlLMOST EQUAL TO ABOVEzbBEL",
    "OWlNNUITY SYMBOLmTICLOCKWISE ARROW ABOVEyRING OVERLAYlSTERISK ABOVEtBELOWkBINDU BELOWlREVEp ",
    "BELOWp-MACRONmIDGE ABOVErBELOWkCANDRABINDUmRONp BELOWlEDILLAlIRCUMFLEX ACCENTzc BELOWlLOCKWI",
    "SE ARROW ABOVEuRING OVERLAYlOMMA ABOVEv RIGHTqBELOWmNJOINING MACRONzc BELOWlYRILLIC DASIA PN",
    "EUMATAtHUNDRED MILLIONS SIGNzcTHOUSANDS SIGNtKAVYKAtLETTER AzbBEzcIG YUSzbCHEzbDEzcJERVzbEFz",
    "cLzcMzcNzcRzcSzd-TEzbFITAzbGHEzbHAzdRD SIGNzbIzcEzcOTIFIED AzkBIG YUSzkEzbKAzbLITTLE YUSzbMO",
    "NOGRAPH UKzbOzcMEGAzbPEzbSHAzdCHAzcOFT SIGNzbTEzcSEzbUzcKRAINIAN IEzbVEzbYATzcERUzcIzcUzbZEz",
    "cHEtMILLIONS SIGNtPALATALIZATIONvYEROKuOKRYTIEuSILI PNEUMATAtTEN MILLIONS SIGNuHOUSAND MILLI",
    "ONS SIGNuITLOy LEFT HALFzaRIGHT HALFtVZMETkDELETION MARKmVANAGARI DIGIT EIGHTzcFIVEzdOURzcNI",
    "NEzcONEzcSEVENzdIXzcTHREEzdWOzcZEROvLETTER AzdKAzdNAzdPAzdRAzdUzdVIvSIGN AVAGRAHAlIAERESISt ",
    "BELOWt-RINGlOT ABOVEt LEFTuRIGHToBELOWt LEFTnTED ACUTE ACCENTrGRAVE ACCENTmUBLE ACUTE ACCENT",
    "rBREVEw BELOWrCIRCUMFLEX ABOVErGRAVE ACCENTrINVERTED BREVEzg BELOWrLOW LINErMACRONx BELOWrOP",
    "EN MARK BELOWsVERLINErPARENTHESES ABOVEsLUS SIGN ABOVEzcBELOWrRIGHTWARDS ARROW BELOWtNG BELO",
    "WrTILDEw LEFT HALFxRIGHT HALFrVERTICAL LINE ABOVEzgBELOWzbSTROKE OVERLAYqD CIRCUMFLEX ACCENT",
    "mWN TACK BELOWoWARDS ARROWkENCLOSING CIRCLEzb BACKSLASHuDIAMONDuKEYCAPuSCREENvQUAREuUPWARD P",
    "OINTING TRIANGLElQUALS SIGN BELOWkFERMATAlOUR DOTS ABOVEkGLAGOLITIC LETTER AZUzdBIG YUSzeUKY",
    "zdCHRIVIzdDJERVIzeOBROzdFITAzeRITUzdGLAGOLIzdHERUzdIzeNITIAL IZHEzeOTATED BIG YUSzlSMALL YUS",
    "zeZHEzdKAKOzdLJUDIJEzdMYSLITEzdNASHIzdONUzdPOKOJIzdRITSIzdSHAzfTAzeLOVOzeMALL YUSzdTSIzeVRID",
    "OzdUKUzdVEDEzdYATIzeERIzgUzfSTUzeOzeUzdZEMLJAzeHIVETElRANTHA DIGIT FIVEzaOURyONEySIXyTHREEza",
    "WOyZEROsLETTER AzaKAzaNAzaPAzaVInPHEME JOINERnVE ACCENTw BELOWqTONE MARKp-ACUTE-GRAVEqMACRON",
    "mEEK DIALYTIKA TONOSqKORONISqMUSICAL PENTASEMEyTETRASEMEzaRISEMEqPERISPOMENIqYPOGEGRAMMENIkH",
    "OMOTHETIC ABOVEmOK ABOVEmRNkINFINITYmVERTED BREVEy BELOWvIDGE BELOWtDOUBLE ARCH ABOVEzgBELOW",
    "lS BELOWkKATAKANA-HIRAGANA SEMI-VOICED SOUND MARKzdVOICED SOUND MARKmVYKA ABOVE LEFTxRIGHTkL",
    "ATIN LETTER SMALL CAPITAL GzmLzmMzmNzmRqSMALL LETTER Azf WITH DIAERESISzfEzfLPHAzfOzfVzeBzfE",
    "TAzeCzf CEDILLAzeDzeEzfSHzfTHzeFzfLATTENED OPEN A ABOVEzeGzeHzeIzfNSULAR DzmGzmRzmTzeKzeLzf ",
    "WITH DOUBLE MIDDLE TILDEzfONG SzeMzeNzeOzf WITH DIAERESISzlLIGHT CENTRALIZATION STROKEzePzeR",
    "zf BELOWzgROTUNDAzeSzfCHWAzeTzfURNED W BELOWzeUzf WITH DIAERESISzlLIGHT CENTRALIZATION STROK",
    "EzeVzeWzf BELOWzeXzeZlEFT ANGLE ABOVEvBELOWqRROW ABOVEvBELOWuHEAD ABOVEzaBELOWpHALF RING ABO",
    "VEzaBELOWrRPOON ABOVEpPARENTHESIS ABOVE LEFTzcBELOW LEFTpRIGHT ARROW ABOVEzcBELOWpTACK BELOW",
    "oWARDS ARROW OVERLAYuHARPOON WITH BARB DOWNWARDSlIGATURE LEFT HALFzd BELOWtRIGHT HALFze BELO",
    "WnHT CENTRALIZATION STROKE BELOWlONG DOUBLE SOLIDUS OVERLAYpSOLIDUS OVERLAYqTROKE OVERLAYpVE",
    "RTICAL LINE OVERLAYmW LINEkMACRONq BELOWrLEFT HALFzb BELOWrRIGHT HALFzc BELOWq-ACUTErBREVErG",
    "RAVElINUS SIGN BELOWkNOT TILDE ABOVElUMBER SIGN ABOVEkOGONEKq ABOVElLD PERMIC LETTER ANzdDOI",
    "zdNENOEzdSIIzdZATAlPEN MARK BELOWlVERLINEkPALATALIZED HOOK BELOWmRENTHESES ABOVEwBELOWwOVERL",
    "AYlLUS SIGN ABOVEuBELOWkRETROFLEX HOOK BELOWmVERSE SOLIDUS OVERLAYrD COMMA ABOVElIGHT ARROW ",
    "ABOVEwBELOWvHEAD ABOVEzcND DOWN ARROWHEAD BELOWzfUP ARROWHEAD BELOWzbBELOWqHALF RING ABOVEzb",
    "BELOWsRPOON ABOVEqPARENTHESIS ABOVE RIGHTzdBELOW RIGHTqTACK BELOWpWARDS HARPOON WITH BARB DO",
    "WNWARDSmNG ABOVEpBELOWpOVERLAYkSEAGULL BELOWlHORT SOLIDUS OVERLAYrTROKE OVERLAYqVERTICAL LIN",
    "E OVERLAYlNAKE BELOWlQUARE BELOWsRACKETS ABOVElTRONG CENTRALIZATION STROKE BELOWlUSPENSION M",
    "ARKkTHREE DOTS ABOVElILDEp BELOWqLEFT HALF BELOWqOVERLAYqRIGHT HALF BELOWlRIPLE ACUTE ACCENT",
    "rDOTrUNDERDOTlURNED COMMA ABOVEkUP TACK ABOVEsBELOWmWARDS ARROW BELOWlR ABOVElS ABOVEkVERTIC",
    "AL LINE ABOVEyBELOWtTILDEkWIDE BRIDGE ABOVEpINVERTED BRIDGE BELOWmGGLY LINE BELOWkX ABOVEmBE",
    "LOWl-X BELOWkZIGZAG ABOVErBELOWdETdMAeERCIAL ATlMINUS SIGNdPASSeLEMENTeOSITION SYMBOLeRESSIO",
    "NcNFETTI BALLeOUNDED FACEeUSED FACEdGRUENT WITH DOT ABOVEdICAL TAPERdJUNCTIONdSTRUCTION SIGN",
    "nWORKERdTAINS AS MEMBERmNORMAL SUBGROUPzc OR EQUAL TOjWITH LONG HORIZONTAL STROKEoOVERBARoVE",
    "RTICAL BAR AT END OF HORIZONTAL STROKEeINUOUS UNDERLINE SYMBOLeOUR INTEGRALeROL KNOBSiSEQUEN",
    "CE INTRODUCERdVENIENCE STOREcOKED RICEeIEfNGcPTIC CAPITAL LETTER AKHMIMIC KHEIxLFAwBOHAIRIC ",
    "KHEIwCROSSED SHEIyYPTOGRAMMIC EIEzlGANGIAzlNIzlSHEIwDALDAxEIxIALECT-P ALEFzhHORIzhKAPAzhNIwE",
    "IEwFEIxIwGAMMAyNGIAwHATExORIwIAUDAwKAPAxHEIyIxSIwL-SHAPED HAxAULAwMIwNIwOxLD COPTIC AINziDJA",
    "ziESHziGANGIAziHAzkTzjEIzjORIziOOUziSHEIzkIMAzbNUBIAN NGIzjYIziSHIMAziWAUxOUwPIxSIwROwSAMPIx",
    "HEIyIMAxIMAxOUwTAUxHETHEwUAwVIDAwZATAiOMBINING NI ABOVErSPIRITUS ASPERzbLENIShEPACT DIGIT EI",
    "GHTtFIVEuOURtNINEtONEtSEVENuIXtTHREEuWOnNUMBER EIGHT HUNDREDzaYuFIFTYwVE HUNDREDvORTYwUR HUN",
    "DREDuNINE HUNDREDyTYuONE HUNDREDuSEVEN HUNDREDzaTYvIX HUNDREDxTYuTENvHIRTYwREE HUNDREDvWENTY",
    "wO HUNDREDnTHOUSANDS MARKhFRACTION ONE HALFiULL STOPhMORPHOLOGICAL DIVIDERhOLD NUBIAN DIRECT",
    " QUESTION MARKsFULL STOPsINDIRECT QUESTION MARKsVERSE DIVIDERhSMALL LETTER AKHMIMIC KHEIvLFA",
    "uBOHAIRIC KHEIuCROSSED SHEIwYPTOGRAMMIC EIEzjGANGIAzjNIzjSHEIuDALDAvEIvIALECT-P ALEFzfHORIzf",
    "KAPAzfNIuEIEuFEIvIuGAMMAwNGIAuHATEvORIuIAUDAuKAPAvHEIwIvSIuL-SHAPED HAvAULAuMIuNIuOvLD COPTI",
    "C AINzgDJAzgESHzgGANGIAzgHAziTzhEIzhORIzgOOUzgSHEIziIMAyNUBIAN NGIzhYIzgSHIMAzgWAUvOUuPIvSIu",
    "ROuSAMPIvHEIwIMAvIMAvOUuTAUvHETHEuUAuVIDAuZATAiYMBOL KAIpHI ROoMI ROoPI ROoSHIMA SIMApTAUROS",
    "oTAU ROdYLEFT SYMBOLeRIGHT SIGNcRALdNISH VERSE DIVIDERdRESPONDS TOcUCH AND LAMPdNTERBOREhSIN",
    "KfING ROD TENS DIGIT EIGHTyFIVEzaOURyNINEyONEySEVENzaIXyTHREEzaWOnUNIT DIGIT EIGHTyFIVEzaOUR",
    "yNINEyONEySEVENzaIXyTHREEzaWOdPLE WITH HEARTcWd FACEbRcABcEDIT CARDdSCENT MOONcICKETh BAT AN",
    "D BALLcOCODILEdISSANTdSS MARKgOF JERUSALEMjLORRAINEgPATTY WITH LEFT CROSSBARrRIGHT CROSSBARh",
    "OMMEEm WITH HALF-CIRCLE BELOWfED FLAGSiNEGATIVE SQUARED LATIN CAPITAL LETTER PiSWORDSfING LA",
    "NESdWNcUTCHdZEIRO SIGNcYING CAT FACEhFACEdSTAL BALLbSIbUBE ROOTcCUMBERcNEIFORM NUMERIC SIGN ",
    "EIGHT ASHzeDISHzeGESH2zeSHAR2zeUzf VARIANT FORMzeVARIANT FORM USSUzv3yLAMITE FIFTYzhORTYzgON",
    "E THIRDzgTWO THIRDSxFIVE ASHzg TENUzdBAN2zh VARIANT FORMzeURUzdDISHzdGESH2zhUzdSHAR2zhUzeIXT",
    "HS DISHzdUze VARIANT FORMyOUR ASHzg TENUzdBAN2zh VARIANT FORMzeURUzdDISHzdGESH2zhUzdSHAR2zhU",
    "zdUze VARIANT FORMzdVARIANT FORM LIMMUzv AzwBzv4xNIGIDAESHzeMINzaNE ASHzdDISHzdGESH2zdSHAR2z",
    "dUze VARIANT FORMzdVARIANT FORM ILIMMUzw Azw3zw4xOLD ASSYRIAN ONE QUARTERzpSIXTHyNE BAN2zdUR",
    "UzcEIGHTH ASHzdSHE3zcGESH2zgUzcHALF GURzcQUARTER ASHzkGURzcSHARUzcTHIRD DISHziVARIANT FORM A",
    "xSEVEN ASHzeDISHzeGESH2zeSHAR2zeUzf VARIANT FORMzeVARIANT FORM IMIN AzwBzv3yHAR2 TIMES GAL P",
    "LUS DISHztMINyIX ASHzf TENUzcDISHzcGESH2zcSHAR2zcUzd VARIANT FORMzcVARIANT FORM ASH9xTHREE A",
    "SHzh TENUzeBAN2zfURUzi VARIANT FORMzeDISHzeGESH2ziUzeSHAR2zj VARIANT FORMziUzj VARIANT FORMz",
    "eVARIANT FORM ESH16zu21yWO ASHzf TENUzcBAN2zdURUzcESHE3zcGESH2zgUzcSHAR2zgUzcTHIRDS DISHzjVA",
    "RIANT FORM AkPUNCTUATION SIGN DIAGONAL COLONzlQUADCOLONzlTRICOLONzcOLD ASSYRIAN WORD DIVIDER",
    "zcVERTICAL COLONkSIGN Aq TIMES AxBADxGAN2 TENUxHAxIGIxLAGAR GUNUxMUSHxSAGq2qBr GUNUsTIMES AS",
    "H2yDUN3 GUNUyGALzbN2 TENUyHAyIGI GUNUzaMINyLAGAByNUNzc TENUySHESHzbU2yU PLUS U PLUS Ur2s TIM",
    "ES AzaBALAGzaGAN2 TENUzaME PLUS ENzaSHA3zaTAK4qDr TIMES ESH2qKr TIMES ERIN2ySHITA PLUS GISHq",
    "Lr TIMES ALyDIM2yGISHyHAyKAD3zaIySHEyUSHrANrEPHqMARt TIMES KUGzbSHEqNr OVER ANsPLUS NAGA OPP",
    "OSING AN PLUS NAGAzdSQUAREDsTHREE TIMESrSHEqPINqRADt TIMES KURrKABqSAL2rHs KABA TENUtOVER AS",
    "H OVER ASHzl CROSSING ASH OVER ASH OVER ASHzdTUG2 OVER TUG2 TUG2 OVER TUG2 PAPtZIDA TENUs2sG",
    "ABpBArDs TIMES DISH TENUrG3rHAR2v TIMES AB2zdNIzdZArLs OVER BALsAGrRsA2qIr TIMES AyGARyIGI G",
    "UNUqUr CROSSING BUsOVER BU ABzbTIMES NA2zbUNrLUGu OVER BULUGrRs2pDAr TIMES TAK4rGs KISIM5 TI",
    "MES A PLUS MASHziMARzhBALAGziIzhGAzj PLUS MASHziIzjR2ziUDzhHAzhIRzj PLUS LUzhKAKzhLAziUzj PL",
    "US MASH2zjMzhNEzhPAP PLUS PAPzhSIzhTAK4zhU2 PLUS GIR2zpMASHziSHtTIMES KURs3rMrRsA3t4qIrBrMs ",
    "TIMES IGIzaSHEzaU U Us2t TIMES UDrNs KASKAL U GUNU DISHrSHt PLUS SHUqUr GUNUsOVER DUsSHESHIG",
    "rBs TIMES ESH2zaSHEs2rGs TIMES ANSHEzbSHzd AT LEFTzaDINzbUNzaERIN2zaGAzbIzcR2 GUNUzcSHzaHAzb",
    "IzaIGI GUNUzaKASKALzbURzcSHU2zg PLUS KASKALzaLAK-020zcMzd TIMES KURzbUH PLUS GISHzaMASHzbESz",
    "bIzaNIzaPIzaSHEzbI GUNUsUDrHrNs3t GUNUy GUNUs4rR2pEq OVER E NUN OVER NUNrTIMES PAPq2r TIMES ",
    "A PLUS HA PLUS DAyGARyKURyMIyPAPySALzaHEyUqDINqGIRqLqNr CROSSING ENsOPPOSING ENsSQUAREDsTIME",
    "S GAN2zd TENUyMEqRENrIN2u XqSH2t CROSSING ESH2qZENt SHESHIG TIMES ASHzjHIzjIGI GUNUzjLAzlLzj",
    "MEzlSzjSUuTIMES Azc PLUS LALzl TIMES LALzcNzbBADzbDUN3 GUNUzk GUNUzbGUDzbHAzd GUNUzbIGI GUNU",
    "zbKASKALzh SQUAREDzcU3zbLAzdL TIMES LALzcIzcUzbSHEzcUzbU2zcDpGAr GUNUr2s OVER GA2tTIMES A PL",
    "US DA PLUS HAzhHAzhIGIzbB2 TENU PLUS TABzbNzc PLUS KAK PLUS AzbSHzd2ze PLUS GALzaBADzcHAR2zc",
    "R PLUS RAzbURzd PLUS RAzaDAzbIzcM GUNUzeTIMES SHEzbUBzcG TIMES IGI GUNUzkKASKALzaELzc PLUS L",
    "AzbNzc TIMES GAN2 TENUzbRENzaGAzcN2 TENUzcRzd PLUS DIzjNEzbIzc4zd PLUS AzcR2 PLUS SUzaHA PLU",
    "S AziLU PLUS ESH2zcLzd PLUS LAzbI PLUS LIzbUB2zaIGI GUNUzbSH PLUS HU PLUS ASHzaKAKzcSKALzbID",
    "zd PLUS LALzbU3 PLUS ANzcSHU2 PLUS KASKALzaLAzcMzd TIMES KURzbUHzaME PLUS ENzbIzbUSHzaNEzc P",
    "LUS E2ziGIzbUNzd OVER NUNzaPAzaSALzcRzbHEzd PLUS TURzcIDzdMzbUMzaTAK4zaUzbDzc PLUS DUzaZIZ2r",
    "BAt CROSSING GABAuROTATED NINETY DEGREESrDs OVER GAD GAR OVER GARrLs GAD OVER GAD GAR OVER G",
    "ARsAMrMrNs2t CROSSING GAN2uOVER GAN2uTENUrRs3rSHANqE22rSHTINw TIMES KURzeUqIr CROSSING GIsTI",
    "MES EyUr4s CROSSING GI4tOVER GI4rDIMrGrR2t GUNUs3t TIMES A PLUS IGIzbGAN2 TENUzbIGIzbLU PLUS",
    " IGIzbPArSALsHt CROSSING GISHuTENUvIMES BADzbGISH CROSSING GISHzbTAK4qUr CROSSING GUr2s GUNU",
    "tTIMES IGI GUNUzaKAKzd TIMES IGI GUNUzaNUNzaSAL PLUS TUG2rDs OVER GUD LUGALtPLUS GISH TIMES ",
    "TAK4tTIMES A PLUS KURzaKURrLrMs TIMES SHErRs7sUNtSHpHAr GUNUsTENUw GUNUrLqIr TIMES ASHzc OVE",
    "R HI TIMES ASHzc2yBADyDISHyGADyKINyNUNySHEyUqUrB2t TIMES ANzbHALzbKASKALzbLISHzbUDrL2rSHpIq ",
    "AqBqDIMt OVER IDIM BURzfSQUAREDqGrIs DIBtGUNUtOVER IGI SHIR OVER SHIR UD OVER UDtRIqLr TIMES",
    " GAN2 TENUr2qMr CROSSING IMsOPPOSING IMsSQUAREDsTIMES TAK4rINqNqRqSHpKAr TIMES AzaDzb PLUS K",
    "U3zaNSHEzaSH2zc3yBADzbLAGzbRzaIzaUyERIN2zaSH2yGAzbLzbN2 TENUzbRzc PLUS SHA3 PLUS AzaIzbR2zbS",
    "Hzd CROSSING GISHzePLUS SARzaUzbDzbR7yHI TIMES ASH2yIGIzaMyKAzbKzaIzbDyLIzaUzbMyMEzb PLUS DU",
    "zhGIzhTEzaIzb PLUS NUNUZyNEzaUNyPAzaIyRUySAzbRzaHAzbEzbIDzbUzcLzaIGzaUHURyTARzaUyUza U Uza2z",
    "aDzaMUM TIMES PAzaRzb2zaSHyZIr2s CROSSING KA2rBrD2s3s4s5t OVER KAD5rKs TIMES IGI GUNUrLs CRO",
    "SSING KALtTIMES BADrM2s4rP ELAMITErSKALv LAGAB TIMES U OVER LAGAB TIMES UwOVER KASKAL LAGAB ",
    "TIMES U OVER LAGAB TIMES UqESH2qIr TIMES BADyUzaDrDrNrSALsHsIM5v OVER KISIM5qUr OVER HI TIME",
    "S ASH2 KU OVER HI TIMES ASH2r3r4s VARIANT FORMr7rLs GUNUrNrRs OPPOSING KURrSHU2qWU318pLArGAB",
    "u SQUAREDvTIMES Azd PLUS DA PLUS HAzjGARzjLALzdLzdNzdSH ZIDA TENUzcBADzdIzcDARzcENzcGAzeRzdI",
    "zdUDzf PLUS GUDzcHAzeLzdI TIMES NUNzcIGI GUNUzdMze PLUS HAzkLUzcKIzeNzdU3zeLzf PLUS HI PLUS ",
    "AzcLAGABzdISHzdUzeLzcMEze PLUS ENzdUSHzcNEzcSHE PLUS SUMzeITA PLUS GISH PLUS ERIN2zsTENUzeU2",
    "zg PLUS SHU2zdUMzcTAGzeK4zdE PLUS A PLUS SU PLUS NAzcUzd PLUS AzjU PLUS Uzd2 PLUS ASHzdDzdSH",
    "zcZU OVER ZUtRu GUNUza OVER LAGAR GUNU SHEvTIMES SHEzf PLUS SUMrHSHUrK-003u21v5u30u50v1u62u7",
    "9 OVER LAK-079 GUNUu80v1 OVER LAK-081u92t130u42t210v9u20v5v8u38u65v6t343v7v8u83v4u90t441v9w ",
    "TIMES GUzeIGIzePAP PLUS LU3znPAP PLUS LU3zeU2 PLUS BAu50v7u70u83u90v2v3v5t550t608u17w TIMES ",
    "ASHzeBADzeDUN3 GUNU GUNUzeKU3zeLAzeTARzfEzeU2zfDzfRUDAu36u48w TIMES DUBzeGAzeIGIzh GUNUzeNIz",
    "ePAP PLUS PAP PLUS LU3zeSHESH PLUS KIzeUDzfRUDAt724u49rLs TIMES LALrMs TIMES KURzd PLUS RUqI",
    "rLrMMU2rSHqUr TIMES BADr2s CROSSING LU2tGUNU TIMES ASHtOPPOSING LU2tSHESHIGzb TIMES BADuQUAR",
    "EDtTENUuIMES ALzaBADzaDISHzaESH2ze PLUS LALzfTENUzaGAN2 TENUzaHALzbI TIMES BADzaIMzaKAD2zd3z",
    "e PLUS ASHzbIzaLA PLUS ASHzcGABzaME PLUS ENzaNEzbUzaPAPzd PLUS PAP PLUS LU3zaSHUzbI PLUS ASH",
    "zcK2 PLUS BUzaTAK4zbUG2r3rGALu OPPOSING LUGALwVER LUGALvSHESHIGrHrLrMs OVER LUMzc GAR OVER G",
    "ARpMAr GUNUsTIMES TAK4r2rHrRrSHt2qErSsHqIr PLUS ZA7rNqUr OVER MUrGs GUNUrNSUBrRGU2rSHt CROSS",
    "ING MUSHuOVER MUSHze TIMES A PLUS NAzlGAzlKAKuTIMES AzbKURzbZAt3u GUNUvTIMES Azd PLUS DIzcDI",
    "zcZApNAr2r4rGAt INVERTEDuOPPOSING NAGAuTIMES SHU TENUtRrMs NUTILLUs2qEr SHESHIGsTIMES AyUDqI",
    "r TIMES Er2rMs TIMES GAN2 TENUzcR PLUS GAN2 TENUrNs9sDA2v TIMES ANzeSHzg PLUS ASHzdBALzdDIM ",
    "GUNUzdGIzfSHzeUDzfLzdHIzdKESH2zdLAK-050zdMASHzeE PLUS GAN2 TENUzdNEzeUNzdPAP PLUS PAPzdSHEzg",
    " PLUS A ANznSHzp PLUS ASHzdUze PLUS Uze2 PLUS ASHzeRUDAzeSHrSAGqUr11t OVER NU11 BUR OVER BUR",
    "uROTATED NINETY DEGREESuTENUrNs CROSSING NUNzg LAGAR OVER LAGARtLAGAR TIMES GARzgMASHzgSALzj",
    " OVER NUN LAGAR TIMES SALzgUSHtOVER NUNtTENUsUZu AB2 TIMES ASHGABzgBIzgDUGzgGUDzgIGI GUNUzgK",
    "AD3zgLAzgNEzgSILA3zgU2vKISIM5 TIMES BIzl UpPArDrNrPqESH2u ASTERISKqIr CROSSING PIsTIMES AzaB",
    "yBIzaUyEyIzaByUza2rR2sIGu OPPOSING PIRIGvTIMES KALzcUDzcZApRArBqIqUpSArGs GUNUx TIMES HAtNUT",
    "ILLUtOVER SAGtTIMES AzaDUzcBzaENzaHAzaIGI GUNUzaKAKzbURzaLUMzaMIzaNUNzaSALzbHE AT LEFTzcIDza",
    "TABzcK4zaU2zbBzbMzbRzbSHrLs LAGAB TIMES ASH2rNGA2rRqHAs3t TIMES AzbBADzbGISHzbNEzbSHU2zbTURz",
    "bUzc PLUS As6t TENUsB6sR2rEs HUtOVER SHEzc GAD OVER GAD GAR OVER GARzdTAB OVER TAB GAR OVER ",
    "GARtPLUS HUB2yNAM2ySARsG9sNsSHu2uLAMrIDt TIMES AzbIMsMt TIMES AzbBALzcULUGzbDINzbGARzbIGIze ",
    "GUNUzbKUSHU2zbLULzbMUGzbSALsNIGsRt OVER SHIR BUR OVER BURuTENUsTArUs OVER INVERTED SHUs2t PL",
    "US DUG TIMES NIzaE2 TIMES ANsBURqIr GUNUsTIMES TAK4rGs4t OVER SIG4 SHU2rK2rLA3qUr OVER SUrDs",
    "2rHURrMsASHrRs9pTAr ASTERISKsGUNUsTIMES HIyMIrBs OVER TAB NI OVER NI DISH OVER DISHtSQUAREDr",
    "Gs TIMES BIzaGUDzaSHEzcUzaTUG2zaUDrK4t PLUS SAGrRqEr GUNUqIr TENUr2rLrRs OVER TIRzc GAD OVER",
    " GAD GAR OVER GARtTIMES TAK4qUrG2rKrMs TIMES GAN2 TENUzaTHREE DISHrRs OVER TUR ZA OVER ZApUq",
    " GUDrOVER U PA OVER PA GAR OVER GARySUR OVER SURyU REVERSED OVER U REVERSEDrUs Uq2qBqDr GUNU",
    "sKUSHU2sSHESHIGza TIMES BADsTIMES BADyMIyU PLUS U PLUS Uzo GUNUrUGqMr TIMES LAGAByMEzb PLUS ",
    "DAySHA3yUrBINrUMt TIMES KASKALzbPAqNr GUNUqRr CROSSING URsSHESHIGr2s INVERTEDtTIMES A PLUS H",
    "AzhNAzbLzaHAzaNUNzaU2zc PLUS ASHziBIzbDr4rIs3rUs TIMES AzbSHGABzaBARzaDARA3zbUNzaGAzcLzcN2 T",
    "ENUzcRzbUzaHAzaIGIzbMzbSHzaKIzaLAK-668zbU3zcMzaMINzaPAzaSHEzbIG4zaTUzaU PLUS GUDzbDzbRUDAsDA",
    "u TIMES UqSHs TIMES AzaKUzcRzaTAK4s2sUMXsXqTUKIqZ3s TIMES KASKALrUpZAr SQUARED TIMES KURsTEN",
    "Ur7rGrMXqE2qIr OVER ZIr3rBs KABA TENUrGrZ2qUr OVER ZU PLUS SARr5s TIMES AzaTHREE DISH TENUrB",
    "URrMcP ON BLACK SQUAREeWITH STRAWdCAKEdIDOcRLING STONEeY BRACKET EXTENSIONgLOGICAL ANDoORiOP",
    "dRENCY EXCHANGEjSIGNeY AND RICEdVED STEM PARAGRAPH SIGN ORNAMENTcSTARDeOMScT OF MEATbYCLONEc",
    "LINDRICITYcPRIOT SYLLABLE ArErIrJAsOrKAsEsIsOsUrLAsEsIsOsUrMAsEsIsOsUrNAsEsIsOsUrOrPAsEsIsOs",
    "UrRAsEsIsOsUrSAsEsIsOsUrTAsEsIsOsUrUrWAsEsIsOrXAsErZAsOeO-MINOAN SIGN CM001w2w4w5w6w7w8w9v10",
    "w1w2xBw3w5w7w9v21w3w4w5w6w7w8w9v30w3w4w5w6w7w8w9v40w1w4w6w7w9v50w1w2w3w4w5w6w8w9v60w1w2w3w4w",
    "6w7w8w9v70w1w2w3w4w5xBw6w8w9v80w1w2w3w4w5w6w7w8w9v90w1w2w4w5w6w7w8w9u100w1w2w3w4w5w7w8w9v10w",
    "2w4u301w2cRILLIC CAPITAL LETTER Aza WITH BREVEzgDIAERESISzaBKHASIAN CHEzm WITH DESCENDERzjDZ",
    "EzjHAzaLEUT KAyBARRED Ozh WITH DIAERESISzbSHKIR KAzaEzaIG YUSzbNOCULAR OzaLENDED YUSzaROAD O",
    "MEGAzaYELORUSSIAN-UKRAINIAN IyCCHEzaHEzc WITH DESCENDERzjIAERESISziVERTICAL STROKEzaLOSED LI",
    "TTLE YUSzaROSSED OyDCHEzaEzaJEzcRVzaOUBLE MONOCULAR OzgOzaWEzaZEzcLOzbHEzbWEzbZEzcHEyEza WIT",
    "H DIAERESISzaFzaLzb WITH DESCENDERzhHOOKzhMIDDLE HOOKzhTAILzaMzb WITH TAILzaNzb WITH DESCEND",
    "ERzhHOOKzhLEFT HOOKzhMIDDLE HOOKzhTAILzaRzb WITH TICKzaSzb WITH DESCENDERyFITAyGHEzc WITH DE",
    "SCENDERziMIDDLE HOOKziSTROKEzo AND HOOKziUPTURNzaJEyHAzb WITH DESCENDERzhHOOKzhSTROKEzbRD SI",
    "GNzaWEyIza WITH DIAERESISzgGRAVEzgMACRONzaEzb WITH BREVEzhGRAVEzaOzbTAzcIFIED AziBIG YUSziCL",
    "OSED LITTLE YUSziEziLITTLE YUSziYATzaZHITSAzg WITH DOUBLE GRAVE ACCENTyJEyKAzb WITH DESCENDE",
    "RzhHOOKzhSTROKEzhVERTICAL STROKEzaHAKASSIAN CHEzaJEzaOMI DEzfJEzfZJEzeLJEzeNJEzeSJEzeTJEzeZJ",
    "EzbPPAzaSIyLHAzaITTLE YUSzaJEyMONOCULAR OzdGRAPH UKyNEUTRAL YERzaJEyOza WITH DIAERESISzaMEGA",
    "ze WITH TITLOzaTyPEzb WITH DESCENDERzhMIDDLE HOOKzaSIyQAyREVERSED DZEziTSEziYUziZEzaHAzaOUND",
    " OMEGAySCHWAze WITH DIAERESISzaEMISOFT SIGNzaHAzbCHAzbHAzd WITH DESCENDERzbORT Izg WITH TAIL",
    "zfUzbWEzaOFT DEzeELzfMzeSIGNzaTRAIGHT Uzj WITH STROKEyTCHEzaEzb WITH DESCENDERzhMIDDLE HOOKz",
    "aSEzbHEzbSEzbWEzaWEyUza WITH DIAERESISzhOUBLE ACUTEzgMACRONzaKzbRAINIAN IEyVEyWEyYAzbEzbTzaE",
    "RUzd WITH BACK YERzjDIAERESISzaIzaNzaUyZEzb WITH DESCENDERziIAERESISzbMLYAzaHEzc WITH BREVEz",
    "iDESCENDERzjIAERESISzbWEsIGATURE A IEzbEN GHEzbTE TSEjKAVYKAjLETTER MULTIOCULAR OqPALOCHKAqS",
    "MALL CAPITAL ELjPAYEROKjSMALL LETTER Ax WITH BREVEzeDIAERESISxBKHASIAN CHEzk WITH DESCENDERz",
    "hDZEzhHAxLEUT KAwBARRED Ozf WITH DIAERESISySHKIR KAxExIG YUSyNOCULAR OxLENDED YUSxROAD OMEGA",
    "xYELORUSSIAN-UKRAINIAN IwCCHExHEza WITH DESCENDERzhIAERESISzgVERTICAL STROKExLOSED LITTLE YU",
    "SxROSSED OwDCHExExJEzaRVxOUBLE MONOCULAR OzeOxWExZEzaLOyHEyWEyZEzaHEwEx WITH DIAERESISxFxLy ",
    "WITH DESCENDERzfHOOKzfMIDDLE HOOKzfTAILxMy WITH TAILxNy WITH DESCENDERzfHOOKzfLEFT HOOKzfMID",
    "DLE HOOKzfTAILxRy WITH TICKxSy WITH DESCENDERwFITAwGHEza WITH DESCENDERzgMIDDLE HOOKzgSTROKE",
    "zm AND HOOKzgUPTURNxJEwHAy WITH DESCENDERzfHOOKzfSTROKEyRD SIGNxWEwIx WITH DIAERESISzeGRAVEz",
    "eMACRONxEy WITH BREVEzfGRAVExOyTAzaIFIED AzgBIG YUSzgCLOSED LITTLE YUSzgEzgLITTLE YUSzgYATxZ",
    "HITSAze WITH DOUBLE GRAVE ACCENTwJEwKAy WITH DESCENDERzfHOOKzfSTROKEzfVERTICAL STROKExHAKASS",
    "IAN CHExJExOMI DEzdJEzdZJEzcLJEzcNJEzcSJEzcTJEzcZJEyPPAxSIwLHAxITTLE YUSxJExONG-LEGGED DEwMO",
    "NOCULAR OzbGRAPH UKwNARROW OxEUTRAL YERxJEwOx WITH DIAERESISxMEGAzc WITH TITLOxTwPALOCHKAxEy",
    " WITH DESCENDERzfMIDDLE HOOKxSIwQAwREVERSED DZEzgTSEzgYUzgZExHAxOUND OMEGAzcED VEwSCHWAzc WI",
    "TH DIAERESISxEMISOFT SIGNxHAyCHAyHAzb WITH DESCENDERyORT Ize WITH TAILzdUyWExOFT DEzcELzdMzc",
    "SIGNxTRAIGHT Uzh WITH STROKEwTALL HARD SIGNzcTEzcYATxCHExEy WITH DESCENDERzfMIDDLE HOOKxHREE",
    "-LEGGED TExSEyHEySEyWExWEwUx WITH DIAERESISzfOUBLE ACUTEzeMACRONxKyRAINIAN IExNBLENDED UKwVE",
    "wWExIDE ESwYAyEyTxERUzb WITH BACK YERzhDIAERESISxIxNxUwZEy WITH DESCENDERzgIAERESISyMLYAxHEz",
    "a WITH BREVEzgDESCENDERzhIAERESISyWEqIGATURE A IEyEN GHEyTE TSEjTHOUSANDS SIGNaDAGGERg KNIFE",
    "hWITH LEFT GUARDmRIGHT GUARDcLET SYMBOLcNCERdGOcRK SHADEgUNGLASSEScSH SYMBOLfWITH LEFT UPTUR",
    "NeED LOW LINEhOVERLINEhTRIANGLE-HEADED RIGHTWARDS ARROWcTA LINK ESCAPEbC1c2c3c4cSbEAF PERSON",
    "cCIDUOUS TREEeMAL EXPONENT SYMBOLiSEPARATOR KEY SYMBOLdREASE FONT SIZE SYMBOLcERcGREE CELSIU",
    "ShFAHRENHEIThSIGNcLdETEdIVERY TRUCKdTA EQUAL TOcNTISTRY SYMBOL LIGHT DOWN AND HORIZONTALzr W",
    "ITH CIRCLEzxTRIANGLEzxWAVExUP AND HORIZONTALzp WITH CIRCLEzvTRIANGLEzvWAVExVERTICAL AND BOTT",
    "OM LEFTzsRIGHTzlTOP LEFTzpRIGHTzlWAVEzhWITH CIRCLEzmTRIANGLEcPARTMENT STOREcRELICT HOUSE BUI",
    "LDINGcSCENDING NODEdERET CAPITAL LETTER AYxBEExCHEExDEExEFyLyMyNzaGyRySzaHyTHyWxGAYxHxJEExKA",
    "YxLONG AzeHzdEzdIzdOzeOxOIyWxPEExSHORT AzfHzeEzeIzeOzfOxTEEyHEExVEExWUxYEExZEEyHEEiSMALL LET",
    "TER AYvBEEvCHEEvDEEvEFwLwMwNxGwRwSxHwTHwWvGAYvHvJEEvKAYvLONG AzcHzbEzbIzbOzcOvOIwWvPEEvSHORT",
    " AzdHzcEzcIzcOzdOvTEEwHEEvVEEvWUvYEEvZEEwHEEfTg ISLANDdKTOP COMPUTERiWINDOWcVANAGARI ABBREVI",
    "ATION SIGNmCUTE ACCENTlCARETlDANDAmIGIT EIGHTrFIVEsOURrNINErONErSEVENsIXrTHREEsWOrZEROmOUBLE",
    " DANDAlGAP FILLERmRAVE ACCENTlHEADSTROKElJAIN OMlLETTER AtAtItUtWtYsBAtBAtHAsCAuNDRA AzaEzaO",
    "tHAsDAtDAuDAvHAuHAtHAsEsFAsGAtGAtHAuHAtLOTTAL STOPsHAtEAVY YAsItIsJAtHAtJAsKAtHAuHAsLAtLAuLA",
    "sMAuRWARI DDAsNAtGAtNAuNAtYAsOtEtOEsPAtHAsQAsRAtHAtRAsSAtHAuORT AyEyOtSAsTAtHAtTAuHAsUtEtUuE",
    "sVAtOCALIC LzcLzbRzcRsYAtYAsZAtHAlOMlSIGN ANUSVARArVAGRAHAqCANDRABINDUzc AVAGRAHAzdTHREEzeWO",
    "zdVIRAMAqDOUBLE CANDRABINDU VIRAMAqHIGH SPACING DOTqINVERTED CANDRABINDUqNUKTAqPUSHPIKAqSIDD",
    "HAMrPACING CANDRABINDUqVIRAMAsSARGAmTRESS SIGN ANUDATTAxUDATTAlVOWEL SIGN AAxIxUxWxYwCANDRA ",
    "EzeLONG EzeOwEwIxIwOxExOEwPRISHTHAMATRA EwSHORT EzdOwUxExUyEwVOCALIC LzgLzfRzgRdICE CONTROL ",
    "FOURpONEpSTRINGpTHREEqWObIAERESISdMETER SIGNeOND OPERATORiSHAPE WITH A DOT INSIDEiTARGETiWIT",
    "H BOTTOM HALF BLACKnLEFT HALF BLACKnRIGHT HALF BLACKnTOP HALF BLACKcE FACE-1j2j3j4j5j6dSEL L",
    "OCOMOTIVEcFFERENCE BETWEENcGIT EIGHTl COMMAmFULL STOPgFIVEk COMMAlFULL STOPhOURk COMMAlFULL ",
    "STOPgNINEk COMMAlFULL STOPgONEj COMMAkFULL STOPgSEVENl COMMAmFULL STOPhIXj COMMAkFULL STOPgT",
    "HREEl COMMAmFULL STOPhWOj COMMAkFULL STOPgZEROk COMMAlFULL STOPdRAM FOR EARTHqLY HEAVENuUMAN",
    "lGREATER YANGuINlHEAVENLY EARTHmUMAN EARTHlLESSER YANGtINcMENSION ORIGINcNGBAT CIRCLED SANS-",
    "SERIF DIGIT EIGHTziFIVEzjOURziNINEziONEziSEVENzjIXziTHREEzjWOziZEROzcNUMBER TENiNEGATIVE CIR",
    "CLED DIGIT EIGHTzgFIVEzhOURzgNINEzgONEzgSEVENzhIXzgTHREEzhWOzaNUMBER TENzaSANS-SERIF DIGIT E",
    "IGHTzrFIVEzsOURzrNINEzrONEzrSEVENzsIXzrTHREEzsWOzrZEROzlNUMBER TENcRECT CURRENT SYMBOL FORM ",
    "TWOhHITcSABLED CARePPOINTED BUT RELIEVED FACEnFACEdCONTINUOUS UNDERLINE SYMBOLdGUISED FACEcT",
    "TO MARKcVES AKURU DIGIT EIGHTsFIVEtOURsNINEsONEsSEVENtIXsTHREEtWOsZEROnOUBLE DANDAmEND OF TE",
    "XT MARKmGAP FILLERmINITIAL RAmLETTER AuAtBAuHAtCAuHAtDAuDAvHAuHAtEtGAuHAtHAtIuItJAtKAuHAtLAu",
    "LAtMAtNAuGAuNAuYAtOtPAuHAtRAtSAuHAuSAtTAuHAuTAtUuUtVAtYAuYAtZAmMEDIAL RAtYAmPREFIXED NASAL S",
    "IGNmSIGN ANUSVARArCANDRABINDUrHALANTArNUKTAmVIRAMAnOWEL SIGN AAyIxExIyIxOxUyUdIDESeNG MASKeS",
    "ION SIGNkLASHjTIMESdORCE SYMBOLcYA LAMPcZZY FACEgSYMBOLbLEbNA DOUBLE HELIXbO NOT LITTER SYMB",
    "OLcCUMENTi WITH PICTUREoTEXTs AND PICTUREcDOcES NOT CONTAIN AS MEMBERuNORMAL SUBGROUPzk OR E",
    "QUALjDIVIDEp WITH REVERSED NEGATION SLASHjFORCEjPRECEDEq OR EQUALlOVEjSUCCEEDq OR EQUALcGd F",
    "ACEdRA ABBREVIATION SIGNgLETTER AoAoIoUnBAoHAnCAoHAnDAoDApHAoHAnEnGAoHAnHAnIoInJAoHAnKAoHAnL",
    "AnMAnNAoGAoNAoYAnOnPAoHAnRAoRAnSAoHAoSAnTAoHAoTApHAnUoUnVAnYAgSIGN ANUSVARAlNUKTAlVIRAMAnSAR",
    "GAgVOWEL SIGN AAsIsUrErIsIrOrUsUrVOCALIC RzbRcLLAR SIGNdPHINcMINO TILE HORIZONTAL BACKw-00-0",
    "0zc1zc2zc3zc4zc5zc6y1-00zc1zc2zc3zc4zc5zc6y2-00zc1zc2zc3zc4zc5zc6y3-00zc1zc2zc3zc4zc5zc6y4-0",
    "0zc1zc2zc3zc4zc5zc6y5-00zc1zc2zc3zc4zc5zc6y6-00zc1zc2zc3zc4zc5zc6mVERTICAL BACKu-00-00za1za2",
    "za3za4za5za6w1-00za1za2za3za4za5za6w2-00za1za2za3za4za5za6w3-00za1za2za3za4za5za6w4-00za1za2",
    "za3za4za5za6w5-00za1za2za3za4za5za6w6-00za1za2za3za4za5za6cNG SIGNcORcT ABOVEeMINUSeOPERATOR",
    "ePLUSdTED CIRCLEiROSShFENCEhLINE FACEhOBELOShRIGHT-POINTING ANGLEhSOLIDUSiQUAREhTRANSPOSITIO",
    "N MARKERcUBLE ACUTE ACCENThCIRCLED DIGIT EIGHTvFIVEwOURvNINEvONEvSEVENwIXvTHREEwWOpNUMBER TE",
    "NiOLON EQUALiURLY LOOPhDAGGERiOWN TACKhEXCLAMATION MARKhHIGH-REVERSED-9 QUOTATION MARKiYPHEN",
    "hINTEGRALlRSECTIONhLEFT ARC GREATER-THAN BRACKETiOGICAL ANDpORjW LINEk-9 QUOTATION MARKlREVE",
    "RSED-9 QUOTATION MARKhNESTED GREATER-THANoLESS-THANx WITH UNDERBARhOBLIQUE HYPHENhPLUSiRECED",
    "ESjIMEm QUOTATION MARKhQUESTION MARKhRIGHT ARC LESS-THAN BRACKEThSOLIDUS OPERATORiQUARE INTE",
    "RSECTIONoUNIONiTACKED COMMAjROKE NOT SIGNiUBSETjCCEEDSjPERSETjSPENSION MARKhUNIONiP TACKhVER",
    "TICAL BARt DOUBLE LEFT TURNSTILEzcRIGHT TURNSTILEuLEFT TURNSTILEqLINEhWAVY OVERLINEg-ENDED M",
    "ULTIMAPhLINE EQUAL TO OR GREATER-THANyLESS-THANmSLANTED EQUAL TO OR GREATER-THANzhLESS-THANu",
    "GREATER-THAN OR EQUAL TOuLESS-THAN OR EQUAL TOhSTRUCK CAPITAL CwGAMMAwHwNwPxIwQwRwZoITALIC C",
    "APITAL DvSMALL DzcEzcIzcJoN-ARY SUMMATIONoSMALL GAMMAuPIgD FEMALE SIGNiMALE SIGNiSYMBOLdGHNU",
    "TcVE OF PEACEcWN ARROWHEADfFISH TAILfRIGHT DIAGONAL ELLIPSISfTACKj WITH CIRCLE BELOWe-POINTI",
    "NG RED TRIANGLEoSMALL RED TRIANGLEoTRIANGLE WITH LEFT HALF BLACKzdRIGHT HALF BLACKeWARD FACI",
    "NG HOOKu WITH DOTqNOTCHED HOOKzd WITH DOTiS ANCORAlRROWp AND RIGHT ONE EIGHTH BLOCKqFROM BAR",
    "qLEFTWARDS OF UPWARDS ARROWqTO BARqWITH CORNER LEFTWARDSvDOUBLE STROKEvEQUILATERAL ARROWHEAD",
    "vHORIZONTAL STROKEvLARGE TRIANGLE ARROWHEADvMEDIUM TRIANGLE ARROWHEADvNOTCHED TAILvSMALL EQU",
    "ILATERAL ARROWHEADzcTRIANGLE ARROWHEADvTIP LEFTWARDSzaRIGHTWARDSkBLACK ARROWqCIRCLED WHITE A",
    "RROWkCOMPRESSED ARROWkDASHED ARROWlOUBLE ARROWkFINGER-POST ARROWkHARPOON WITH BARB LEFT BESI",
    "DE DOWNWARDS HARPOON WITH BARB RIGHTzpUPWARDS HARPOON WITH BARB RIGHTziFROM BARziTO BARzhWAR",
    "DSzdRIGHT FROM BARzjTO BARziWARDSlEAVY ARROWqCOMPRESSED ARROWkPAIRED ARROWSkQUADRUPLE ARROWk",
    "ROCKETkSANS-SERIF ARROWlQUARED ARROWkTRIANGLE ARROWHEADs-HEADED ARROWzg LEFTWARDS OF UPWARDS",
    " TRIANGLE-HEADED ARROWzhTO BARzhWITH BOLD SHAFTzmDOUBLE HORIZONTAL STROKEzmHEAVY SHAFTzmLONG",
    " TIP LEFTWARDSzvRIGHTWARDSzmMEDIUM SHAFTzmNARROW SHAFTzmVERY HEAVY SHAFTzbDASHED ARROWzbPAIR",
    "ED ARROWSzbZIGZAG ARROWnPLE ARROWlWO HEADED ARROWn-HEADED ARROW WITH TRIANGLE ARROWHEADSkWHI",
    "TE ARROWv WITHIN TRIANGLE ARROWHEADkZIGZAG ARROWbRACHMA SIGNdFTING POINT RIGHTWARDS ARROWdGO",
    "Ng FACEcESScIVE SLOW SIGNcOMEDARY CAMELdOLING FACEdP OF BLOODeLETcUM WITH DRUMSTICKSbUCKcMPL",
    "INGcPLOYAN AFFIX ATTACHED E HOOKyI HOOKyLEFT-TO-RIGHT SECANTySECANTyTAILzbNGENTzg HOOKpHIGH ",
    "ACUTEuCIRCLEuDOTuGRAVEuLINEvONG GRAVEuTIGHT ACUTEuVERTICALzd SECANTuWAVEpLEFT HORIZONTAL SEC",
    "ANTqOW ACUTEuRROWtCIRCLEtDOTtGRAVEtLINEuONG GRAVEtTIGHT ACUTEtVERTICALzc SECANTtWAVEpMID HOR",
    "IZONTAL SECANTtVERTICAL SECANTpRIGHT HORIZONTAL SECANTjDOUBLE MARKjLETTER ArOUqBqDr SrHqErEr",
    "UqFr NqGr R SqHrLqIrEqJr Mt SsNt SsSt WITH DOTsWITH DOTzbS INSIDE AND ABOVEqKr MsR SrKqLrHrO",
    "NG IvUqMr Nt SsSsWITH DOTqNr Mt SsSsWITH DOTrASAL AwIwOwUqOrArOHrUrWqPr NrERNIN AMyNqRr SrHr",
    "OMANIAN IzaUqSr Jt SsKt RsMsNsPt RsSsTt RsWITH DOTzb BELOWrHORT IrLOAN ANwDHwEExHxNwJwONxWwU",
    "qTr R SsSrHqUr NrHrIqVrOCALIC MqWr RrArEIrHrIrOsWqXrWqYEjPUNCTUATION CHINOOK FULL STOPjSIGN ",
    "O WITH CROSSjTHICK LETTER SELECTORbVDaE-MAIL SYMBOLbAGLEcRd OF MAIZEhRICEeWITH HEARING AIDdT",
    "Hf GLOBE AMERICASnSIA-AUSTRALIAmEUROPE-AFRICAhROUNDcST SYRIAC CROSSbDITORIAL CORONISbGGcYPTI",
    "AN HIEROGLYPH A001x2x3x4x5yAx6yAyBx7x8x9w10x1x2x3x4yAx5x6x7yAx8x9w20x1x2x3x4x5x6x7x8x9w30x1x",
    "2yAx3x4x5x6x7x8x9w40yAx1x2yAx3yAx4x5yAx6x7x8x9w50x1x2x3x4x5x6x7x8x9w60x1x2x3x4x5x6x7x8x9w70v",
    "A001y2y3y4y5y6y7zaAzaBy8y9x10y1y2y3y4y5y6y7y8y9x20y1y2y3y4y5y6y7y8y9x30y1y2uB001x2x3x4x5yAx6",
    "x7x8x9vEGIN SEGMENTuC001x2yAyByCx3x4x5x6x7x8x9w10yAx1x2x3x4x5x6x7x8x9w20x1x2x3x4uD001x2x3x4x",
    "5x6x7x8yAx9w10x1x2x3x4x5x6x7x8x9w20x1x2x3x4x5x6x7yAx8x9w30x1yAx2x3x4yAx5x6x7x8x9w40x1x2x3x4x",
    "5x6yAx7x8yAx9w50yAyByCyDyEyFyGyHyIx1x2yAx3x4yAx5x6x7x8x9w60x1x2x3x4x5x6x7yAyByCyDyEyFyGyHuE0",
    "01x2x3x4x5x6x7x8yAx9yAw10x1x2x3x4x5x6yAx7yAx8x9w20yAx1x2x3x4x5x6x7x8yAx9w30x1x2x3x4yAx6x7x8v",
    "ND SEGMENTuF001yAx2x3x4x5x6x7x8x9w10x1x2x3yAx4x5x6x7x8x9w20x1yAx2x3x4x5x6x7x8x9w30x1yAx2x3x4",
    "x5x6x7yAx8yAx9w40x1x2x3x4x5yAx6yAx7yAx8x9w50x1yAyByCx2x3uG001x2x3x4x5x6yAx7yAyBx8x9w10x1yAx2",
    "x3x4x5x6x7x8x9w20yAx1x2x3x4x5x6yAx7x8x9w30x1x2x3x4x5x6yAx7yAx8x9w40x1x2x3yAx4x5yAx6x7x8x9w50",
    "x1x2x3x4uH001x2x3x4x5x6yAx7x8vORIZONTAL JOINERuI001x2x3x4x5yAx6x7x8x9yAw10yAx1yAx2x3x4x5vNSE",
    "RT AT BOTTOM ENDzmSTARTzfTOP ENDzjSTARTuK001x2x3x4x5x6x7x8uL001x2yAx3x4x5x6yAx7x8uM001yAyBx2",
    "x3yAx4x5x6x7x8x9w10yAx1x2yAyByCyDyEyFyGyHx3x4x5yAx6yAx7yAx8x9w20x1x2yAx3x4yAx5x6x7x8yAx9w30x",
    "1yAx2x3yAyBx4x5x6x7x8x9w40yAx1x2x3x4uN001x2x3x4x5x6x7x8x9w10x1x2x3x4x5x6x7x8yAyBx9w20x1x2x3x",
    "4x5yAx6x7x8x9w30x1x2x3yAx4yAx5yAx6x7yAx8x9w40x1x2vL001y2y3y4y5zaAy6y7y8y9x10y1y2y3y4y5y6y7za",
    "Ay8y9x20vU001y2y3y4y5y6y7y8y9x10zaAy1zaAy2y3y4y5y6y7y8zaAy9x20y1y2zaAuO001yAx2x3x4x5yAx6yAyB",
    "yCyDyEyFx7x8x9w10yAyByCx1x2x3x4x5x6x7x8x9yAw20yAx1x2x3x4yAx5yAx6x7x8x9yAw30yAx1x2x3yAx4x5x6y",
    "AyByCyDx7x8x9w40x1x2x3x4x5x6x7x8x9w50yAyBx1vVERLAY MIDDLEuP001yAx2x3yAx4x5x6x7x8x9w10x1uQ001",
    "x2x3x4x5x6x7uR001x2yAx3yAyBx4x5x6x7x8x9w10yAx1x2x3x4x5x6yAx7x8x9w20x1x2x3x4x5x6x7x8x9uS001x2",
    "yAx3x4x5x6yAx7x8x9w10x1x2x3x4yAyBx5x6x7yAx8x9w20x1x2x3x4x5x6yAyBx7x8x9w30x1x2x3x4x5yAx6x7x8x",
    "9w40x1x2x3x4x5x6uT001x2x3yAx4x5x6x7yAx8yAx9yAw10x1yAx2x3x4x5x6yAx7x8x9w20x1x2x3x4x5x6x7x8x9w",
    "30x1x2yAx3yAx4x5x6uU001x2x3x4x5x6yAyBx7x8x9w10x1x2x3x4x5x6x7x8x9w20x1x2x3yAx4x5x6x7x8x9yAw30",
    "x1x2yAx3x4x5x6x7x8x9w40x1x2uV001yAyByCyDyEyFyGyHyIx2yAx3x4x5x6x7yAyBx8x9w10x1yAyByCx2yAyBx3x",
    "4x5x6x7x8x9w20yAyByCyDyEyFyGyHyIyJyKyLx1x2x3yAx4x5x6x7x8yAx9yAw30yAx1yAx2x3yAx4x5x6x7yAx8x9w",
    "40yAvERTICAL JOINERuW001x2x3yAx4x5x6x7x8x9yAw10yAx1x2x3x4yAx5x6x7yAx8yAx9w20x1x2x3x4yAx5uX00",
    "1x2x3x4yAyBx5x6yAx7x8yAuY001yAx2x3x4x5x6x7x8uZ001x2yAyByCyDx3yAyBx4yAx5yAx6x7x8x9w10x1x2x3x4",
    "x5yAyByCyDyEyFyGyHyIx6yAyByCyDyEyFyGyHbIGHT PETALLED OUTLINED BLACK FLORETTEhOINTED BLACK ST",
    "ARoPINWHEEL STARoRECTILINEAR BLACK STARgSPOKED ASTERISKgTEARDROP-SPOKED PROPELLER ASTERISKfH",
    " NOTEbJECT SYMBOLbLBASAN LETTER ApBEpCEqHEpDEqHEpEqIpFEpGEqHAMMArEqJEpHEpIpJEpKEqHEpLEqLEpME",
    "pNAqDEqEqJEpOpPEpQEpREqREpSEqHEpTEqHEpUpVEpXEpYpZEqHEcECTRIC ARROWjLIGHT BULBjPLUGjTORCHiAL ",
    "INTERSECTIONdMENT OFk OPENING DOWNWARDStUPWARDSlWITH DOT ABOVEqLONG HORIZONTAL STROKEqOVERBA",
    "RqTWO HORIZONTAL STROKESqUNDERBARqVERTICAL BAR AT END OF HORIZONTAL STROKEdPHANTdVATORcFcYMA",
    "IC LETTER ALEPHqYINpBETHpDALETHpGIMELpHErTHpKAPHpLAMEDHpMEMpNUNpPEpQOPHpRESHpSADHErMEKHqHINp",
    "TAWqETHpWAWpYODHpZAYINjIGATURE ZAYIN-YODHbM DASHdQUADdSPACEcOJI COMPONENT BALDqCURLY HAIRqRE",
    "D HAIRqWHITE HAIRgMODIFIER FITZPATRICK TYPE-1-2zh3zh4zh5zh6cPHASIS SYMBOLdTY DOCUMENTgNESThO",
    "TEk PADnGEgPAGEkSgSETj WITH LEFT ARROW ABOVEpOVERBARpRIGHT ARROW ABOVEpSMALL CIRCLE ABOVEbN ",
    "DASHdQUADdSPACEcD OF GUARDED AREAhLINEhMEDIUMhPROOFkTECTED AREAhSELECTED AREAhTEXTiRANSMISSI",
    "ONt BLOCKeWITH LEFTWARDS ARROW ABOVEcQdUIRYcTER SYMBOLcVELOPEi WITH DOWNWARDS ARROW ABOVEoLI",
    "GHTNINGbOLcMcTbPAbQUAL AND PARALLEL TOgTO BY DEFINITIONjOR GREATER-THANmLESS-THANmPRECEDESmS",
    "UCCEEDSfS COLONhSIGNl ABOVE LEFTWARDS ARROWsPLUS SIGNsRIGHTWARDS ARROWsTILDE OPERATORnND SLA",
    "NTED PARALLELzh WITH TILDE ABOVEmWITH BUMPY ABOVErDOT BELOWrINFINITY BELOWrTWO DOTS ABOVE AN",
    "D TWO DOTS BELOWhWITH ASTERISKdIANGULAR TOeVALENT TOlWITH FOUR DOTS ABOVEbRASE TO THE LEFTnR",
    "IGHTcIS FORM ONEkTWOcROR-BARRED BLACK CIRCLEtDIAMONDtSQUAREnWHITE CIRCLEtDIAMONDtSQUAREbSAcC",
    "dAPEcTIMATED SYMBOLiSbTBcHIOPIC COLONlMBINING GEMINATION AND VOWEL LENGTH MARKzfMARKtVOWEL L",
    "ENGTH MARKmMAjDIGIT EIGHTpFIVEqOURpNINEpONEpSEVENqIXpTHREEqWOjFULL STOPjNUMBER EIGHTYqFIFTYr",
    "ORTYqHUNDREDqNINETYqSEVENTYrIXTYqTENt THOUSANDrHIRTYrWENTYjPARAGRAPH SEPARATORkREFACE COLONj",
    "QUESTION MARKjSECTION MARKlMICOLONkYLLABLE BAuAtBAvAuEvEuIuOuUtEuEtItOuAtUtWAuEvEuIsCAuAtCAv",
    "AuEvEuHAwAvEwEvHAxAwExEwIwOwUvIvOvUuIuOuUtEuEtHAvAuEvEuIuOvAuUuWAtItOuAtUtWAsDAuAtDAvAuEvEuH",
    "AAvEwEvIvOvUuIuOvAuUuWAtEuEtItOuAtUtWAtZAAuEvEuIuOuUsFAuAtEuEtItOtUtWAuEvEuItYAsGAuAtEuEtGAv",
    "AuEvEuIuOuUuWAwAvEwEvItItLOTTAL AzcAzbEzcEzbIzbOzcAzbUzbWAtOuAtUuRAGE BWEEzcIzaFWEEzcIzaGWEz",
    "dEzcIzaHHWAzaKWEzdEzcIzaMWEEzcIzaPWEEzcIzaQWEzdEzcItWAvAuEvEuItYAvAuEvEuIuOuUsHAuAtEuEtHAvAu",
    "EvEuIuOuUuWAvEwEvIuYAwAvEwEvIvOvUtItOuAtUsJAuAtEuEtItOuAtUtWAsKAuAtEuEtItOuAtUtWAvAuEvEuItXA",
    "vAuEvEuIuOuUuWAwAvEwEvItYAvAuEvEuIuOuUsLAuAtEuEtItOuAtUtWAsMAuAtEuEtItOuAtUtWAuEvEuItYAsNAuA",
    "tEuEtItOuAtUtWAtYAvAuEvEuIuOvAuUuWAsPAuAtEuEtHAvAvRYNGEAL AzfAzeEzfEzeIzeOzeUuEvEuIuOvAuUuWA",
    "tItOuAtUtWAuEvEuIsQAuAtEuEtHAvAuEvEuIuOuUuWAwAvEwEvItItOuAtUtWAvAuEvEuItYAvAuEvEuIuOuUsRAuAt",
    "EuEtItOuAtUtWAtYAsSAuAtEuBATBEIT BWAzdFWAzdMWAzdPWAuEtHAvAuEvEuIuOvAuUuWAtItOuAtSAvAuEvEuIuO",
    "uUtUtWAtZAvAuEvEuIuOuUuWAsTAuAtEuEtHAvAuEvEuIuOvAuUuWAtItOuAtSAvAuEvEuIuOuUuWAtTHAAvEwEvIvOv",
    "UtUtWAtZAvAuEvEuIuOvAuUsVAuAtEuEtItOtUtWAsWAuAtEuEtItOuAtUsXAuAtEuEtItOuAtUtWAvAuEvEuItYAvAu",
    "EvEuIuOuUsYAuAtEuEtItOuAtUsZAuAtEuEtHAvAuEvEuIuOuUuWAtItOuAtUtWAtZAvAuEvEuIuOuUjTONAL MARK C",
    "HIRETuDERETza-HIDETvIFATuHIDETuKENATvURTuRIKRIKuSHORT RIKRIKuYIZETjWORDSPACEcXbULER CONSTANT",
    "cRO SIGNe-CURRENCY SIGNePEAN CASTLEjPOST OFFICEbVERGREEN TREEbXCESSdLAMATION MARKmQUESTION M",
    "ARKcPRESSIONLESS FACEcTENDED ARABIC-INDIC DIGIT EIGHTzdFIVEzeOURzdNINEzdONEzdSEVENzeIXzdTHRE",
    "EzeWOzdZEROdRATERRESTRIAL ALIENeEMELY HEAVY FIVE SPOKED ASTERISKqGREEK CROSSqSALTIRErIX SPOK",
    "ED ASTERISKqWHITE CIRCLEwSQUAREbYEdGLASSESdSaFACE HOLDING BACK TEARSfMASSAGEfPALMfSAVOURING ",
    "DELICIOUS FOODgCREAMING IN FEARfTHROWING A KISSfWITH COLD SWEATmWBOY HATkDIAGONAL MOUTHkFING",
    "ER COVERING CLOSED LIPSkHEAD-BANDAGEkLOOK OF TRIUMPHkMEDICAL MASKlONOCLEkNO GOOD GESTUREkOK ",
    "GESTURElNE EYEBROW RAISEDlPEN EYES AND HAND OVER MOUTHpMOUTHu AND COLD SWEATvVOMITINGkPARTY ",
    "HORN AND PARTY HATlEEKING EYElLEADING EYESkROLLING EYESkSTUCK-OUT TONGUEzb AND TIGHTLY-CLOSE",
    "D EYESzgWINKING EYEkTEARS OF JOYlHERMOMETERkUNEVEN EYES AND WAVY MOUTHjOUT MOUTHdSIMILE SIGN",
    "dTORYcIRYcLAFELdLEN LEAFeING DIAGONAL CROSSING NORTH EAST ARROWzbRISING DIAGONALrIN WHITE CI",
    "RCLE IN BLACK SQUAREcMILYcRSI SYMBOLcTHER CHRISTMAScX ICONeMACHINEbEARFUL FACEdTHERcMALE SIG",
    "NdININE ORDINAL INDICATORcNCERcRRIS WHEELeYbFbIELD HOCKEY STICK AND BALLcGURE DASHhSPACEcLE ",
    "CABINETfFOLDERfSEPARATORdM FRAMESfPROJECTORcNITE PART INTEGRALcREe ENGINEgXTINGUISHEReCRACKE",
    "ReWORK SPARKLERiSdST PLACE MEDALgQUARTER MOONs SYMBOLtWITH FACEgSTRONG ISOLATEcSHe CAKE WITH",
    " SWIRL DESIGNeEYEeING POLE AND FISHdTED HAND SIGNcVE DOT MARKjPUNCTUATIONbLAG IN HOLEdMINGOd",
    "T SHOEeBREADeNESScEUR-DE-LISdXED BICEPScOPPY DISKdRAL HEARTdWERg PLAYING CARDSiUNCTUATION MA",
    "RKcUSHED FACEcYdING DISChENVELOPEhSAUCERbOGdGYcLDERcNDUEcOTePRINTScR ALLdCESdK AND KNIFEo WI",
    "TH PLATEeED PARAGRAPHOSeINGdM FEEDdTUNE COOKIEcUNTAINdR BALLOON-SPOKED ASTERISKfCLUB-SPOKED ",
    "ASTERISKgORNER ARROWS CIRCLING ANTICLOCKWISEfDOT MARKjPUNCTUATIONfLEAF CLOVERfPOINTED BLACK ",
    "STARfTEARDROP-SPOKED ASTERISKe-PER-EM SPACEeTH ROOTcX FACEbRACTION NUMERATOR ONEjSLASHdME WI",
    "TH AN XlPICTURElTILEScEEZING FACEdNCH FRANC SIGNjIEScIED SHRIMPcOG FACEdNT-FACING BABY CHICK",
    "gTILTED SHADOWED WHITE RIGHTWARDS ARROWdWNfING FACE WITH OPEN MOUTHbScIbUEL PUMPcLL BLOCKfMO",
    "ON SYMBOLkWITH FACEfOUTER JOINfSTOPeWIDTH AMPERSANDlPOSTROPHElSTERISKkBROKEN BARkCENT SIGNlI",
    "RCUMFLEX ACCENTlOLONmMMAoERCIAL ATkDIGIT EIGHTqFIVErOURqNINEqONEqSEVENrIXqTHREErWOqZEROlOLLA",
    "R SIGNkEQUALS SIGNlXCLAMATION MARKkFULL STOPkGRAVE ACCENTmEATER-THAN SIGNkHYPHEN-MINUSkLATIN",
    " CAPITAL LETTER AzgBzgCzgDzgEzgFzgGzgHzgIzgJzgKzgLzgMzgNzgOzgPzgQzgRzgSzgTzgUzgVzgWzgXzgYzgZ",
    "qSMALL LETTER AzeBzeCzeDzeEzeFzeGzeHzeIzeJzeKzeLzeMzeNzeOzePzeQzeRzeSzeTzeUzeVzeWzeXzeYzeZlE",
    "FT CURLY BRACKETpPARENTHESISpSQUARE BRACKETpWHITE PARENTHESISmSS-THAN SIGNlOW LINEkMACRONkNO",
    "T SIGNlUMBER SIGNkPERCENT SIGNlLUS SIGNlOUND SIGNkQUESTION MARKmOTATION MARKkREVERSE SOLIDUS",
    "lIGHT CURLY BRACKETqPARENTHESISqSQUARE BRACKETqWHITE PARENTHESISkSEMICOLONlOLIDUSkTILDEkVERT",
    "ICAL LINEkWON SIGNkYEN SIGNcNCTION APPLICATIONdERAL URNcSEbVS1d2d3d4aGAME DIEcRLICbEARe WITH",
    " HANDLESjOUT HUBcM STONEdINIcNIEcOMETRIC PROPORTIONjALLY EQUAL TOrIVALENT TOdRGIAN CAPITAL L",
    "ETTER AENzaNyBANyCANzaHARzbINzaILyDONyENyGANzaHANyHAEzbRzaEzaIEzaOEyINyJHANzaILyKANzaHARyLAS",
    "yMANyNARyONyPARzaHARyQARyRAEySANzaHINyTANzbRyUNyVINyWEyXANyYNyZENzaHARjLETTER AENrINrNqBANqC",
    "ANrHARsINrILqDONqELIFIrNqFIqGANrHANqHAEsRtD SIGNrErIErOEqINqJHANrILqKANrHARqLABIAL SIGNsSqMA",
    "NqNARqONqPARrHARqQARqRAEqSANrHINqTANsRrURNED GANqUNqVINqWEqXANqYNqZENrHARjMTAVRULI CAPITAL L",
    "ETTER AENzjINzjNziBANziCANzjHARzkINzjILziDONziELIFIzjNziFIziGANzjHANziHAEzkRzlD SIGNzjEzjIEz",
    "jOEziINziJHANzjILziKANzjHARziLABIAL SIGNzkSziMANziNARziONziPARzjHARziQARziRAEziSANzjHINziTAN",
    "zkRzjURNED GANziUNziVINziWEziXANziYNziZENzjHARjPARAGRAPH SEPARATORjSMALL LETTER AENxNwBANwCA",
    "NxHARyINxILwDONwENwGANxHANwHAEyRxExIExOEwINwJHANxILwKANxHARwLASwMANwNARwONwPARxHARwQARwRAEwS",
    "ANxHINwTANyRwUNwVINwWEwXANwYNwZENxHARcRMAN PENNY SIGNcTA MARKbHOSTbIMEL SYMBOLcRAFFE FACEdLe",
    "S SYMBOLbLAGOLITIC CAPITAL LETTER AZUzbBIG YUSzcUKYzbCAUDATE CHRIVIzcHRIVIzbDJERVIzcOBROzcZE",
    "LOzbFITAzcRITUzbGLAGOLIzbHERUzbIzcNITIAL IZHEzcOTATED BIG YUSzjSMALL YUSzcZHEzeITSAzbKAKOzbL",
    "ATINATE MYSLITEzcJUDIJEzbMYSLITEzbNASHIzbONUzcTUzbPEzcOKOJIzbRITSIzbSHAzdTAzfPICzcLOVOzcMALL",
    " YUSzk WITH TAILzcPIDERY HAzbTROKUTASTI AzcSIzcVRIDOzbUKUzbVEDEzbYATIzcERIzeUzdSTUzcOzcUzbZE",
    "MLJAzcHIVETElSMALL LETTER AZUyBIG YUSzaUKYyCAUDATE CHRIVIzaHRIVIyDJERVIzaOBROzaZELOyFITAzaRI",
    "TUyGLAGOLIyHERUyIzaNITIAL IZHEzaOTATED BIG YUSzhSMALL YUSzaZHEzcITSAyKAKOyLATINATE MYSLITEza",
    "JUDIJEyMYSLITEyNASHIyONUzaTUyPEzaOKOJIyRITSIySHAzbTAzdPICzaLOVOzaMALL YUSzi WITH TAILzaPIDER",
    "Y HAyTROKUTASTI AzaSIzaVRIDOyUKUyVEDEyYATIzaERIzcUzbSTUzaOzaUyZEMLJAzaHIVETEdSS OF MILKcEICH",
    " STARKcOBE WITH MERIDIANSdVESdWING STARbOAL NETdTcGGLEScLFERcRILLAcTHIC LETTER AHSApIHVUSoBA",
    "IRKANoDAGSoEISoFAIHUoGIBAoHAGLpWAIRoIGGWSpUJAoJERoKUSMAoLAGUSoMANNAoNAUTHSpINE HUNDREDsTYoOT",
    "HALoPAIRTHRAoQAIRTHRAoRAIDAoSAUILoTEIWSpHIUTHoURUSoWINJAbRADUATION CAPdNTHA AU LENGTH MARKiL",
    "ETTER AqAqIqUpBAqHApCAqHApDAqDArHAqHApEEpGAqHApHApIqIpJAqHApKAqHApLAqLApMApNAqGAqNAqYApOOpPA",
    "qHApRApSAqHAqSApTAqHAqTArHApUqUpVAqEDIC ANUSVARAvDOUBLE ANUSVARAqOCALIC LyLxRyRpYAiOMiSIGN A",
    "NUSVARAoVAGRAHAnCANDRABINDUoOMBINING ANUSVARA ABOVEnNUKTAnPLUTAnVIRAMApSARGAiVOWEL SIGN AAuI",
    "uUtEEtIuItOOtUuUtVOCALIC LzdLzcRzdRdPESdVE ACCENTcEATER-THAN ABOVE DOUBLE-LINE EQUAL ABOVE L",
    "ESS-THANtLESS-THAN ABOVE DOUBLE-LINE EQUALtRIGHTWARDS ARROWtSIMILAR ABOVE LESS-THANzcOR EQUA",
    "LuLANTED EQUAL ABOVE LESS-THAN ABOVE SLANTED EQUALoND NOT APPROXIMATErSINGLE-LINE NOT EQUAL ",
    "TOnBESIDE LESS-THANoUT NOT EQUAL TOyIVALENT TOnCLOSED BY CURVEzd ABOVE SLANTED EQUALnEQUAL T",
    "O OR LESS-THANnOR APPROXIMATEqEQUAL TOtIVALENT TOqLESS-THANqSLANTED EQUAL TOzh WITH DOT ABOV",
    "Ezw LEFTzrINSIDEoVER EQUAL TOrLAPPING LESS-THANnSIGNnWITH CIRCLE INSIDEsDOTsQUESTION MARK AB",
    "OVEdEK ACROPHONIC ATTIC FIFTYzd STATERSzeTALENTSzfHOUSANDzm STATERSzaVEzc HUNDREDzk STATERSz",
    "lTALENTSzdSTATERSzdTALENTSzeHOUSANDzl TALENTSxONE DRACHMAzcHALFzdUNDRED STATERSzkTALENTSzcQU",
    "ARTERzcTHOUSAND STATERSzlTALENTSxTEN MNASzcSTATERSzcTALENTSzdHOUSAND STATERSrCARYSTIAN FIVE ",
    "HUNDREDsYRENAIC TWO DRACHMASrDELPHIC FIVE MNASrEPIDAUREAN FIVE HUNDREDzdTWOzg DRACHMASrHERAE",
    "UM ONE PLETHRONuMIONIAN FIFTYzdONEzdTENrMESSENIAN TENrNAXIAN FIVE HUNDREDrSTRATIAN FIFTY MNA",
    "SrTHESPIAN FIFTYzdVE HUNDREDzgTHOUSANDzbONEze HUNDREDzfTHOUSANDzbTENzcHIRTYzdREE HUNDREDzcWO",
    "sROEZENIAN FIFTYzi ALTERNATE FORMzfVEzh HUNDREDzdTENzg ALTERNATE FORMhNO TELEIAhROURA SIGNiT",
    "ABE SIGNgBETA SYMBOLgCAPITAL DOTTED LUNATE SIGMA SYMBOLoKAI SYMBOLoLETTER ALPHAzb WITH DASIA",
    "zm AND OXIAzv AND PROSGEGRAMMENIzrPERISPOMENIzzd AND PROSGEGRAMMENIzsROSGEGRAMMENIzrVARIAzw ",
    "AND PROSGEGRAMMENIzhMACRONzhOXIAzhPROSGEGRAMMENIziSILIzm AND OXIAzv AND PROSGEGRAMMENIzrPERI",
    "SPOMENIzzd AND PROSGEGRAMMENIzsROSGEGRAMMENIzrVARIAzw AND PROSGEGRAMMENIzhTONOSzhVARIAziRACH",
    "YwRCHAIC SAMPIvBETAvCHIvDELTAvEPSILONzd WITH DASIAzo AND OXIAztVARIAzjOXIAzjPSILIzo AND OXIA",
    "ztVARIAzjTONOSzjVARIAwTAy WITH DASIAzk AND OXIAzt AND PROSGEGRAMMENIzpPERISPOMENIzzb AND PRO",
    "SGEGRAMMENIzqROSGEGRAMMENIzpVARIAzu AND PROSGEGRAMMENIzfOXIAzfPROSGEGRAMMENIzgSILIzk AND OXI",
    "Azt AND PROSGEGRAMMENIzpPERISPOMENIzzb AND PROSGEGRAMMENIzqROSGEGRAMMENIzpVARIAzu AND PROSGE",
    "GRAMMENIzfTONOSzfVARIAvGAMMAvHETAvIOTAza WITH DASIAzl AND OXIAzqPERISPOMENIzqVARIAzhIALYTIKA",
    "zgMACRONzgOXIAzgPSILIzl AND OXIAzqPERISPOMENIzqVARIAzgTONOSzgVARIAzhRACHYvKAPPAvLAMDAvMUvNUv",
    "OMEGAzb WITH DASIAzm AND OXIAzv AND PROSGEGRAMMENIzrPERISPOMENIzzd AND PROSGEGRAMMENIzsROSGE",
    "GRAMMENIzrVARIAzw AND PROSGEGRAMMENIzhOXIAzhPROSGEGRAMMENIziSILIzm AND OXIAzv AND PROSGEGRAM",
    "MENIzrPERISPOMENIzzd AND PROSGEGRAMMENIzsROSGEGRAMMENIzrVARIAzw AND PROSGEGRAMMENIzhTONOSzhV",
    "ARIAxICRONzd WITH DASIAzo AND OXIAztVARIAzjOXIAzjPSILIzo AND OXIAztVARIAzjTONOSzjVARIAvPAMPH",
    "YLIAN DIGAMMAwHIwIwSIvRHOy WITH DASIAvSANwHOwIGMAvTAUwHETAvUPSILONzd WITH DASIAzo AND OXIAzt",
    "PERISPOMENIztVARIAzkIALYTIKAzjMACRONzjOXIAzjTONOSzjVARIAzkRACHYvXIvYOTvZETApUNATE SIGMA SYMB",
    "OLoREVERSED DOTTED LUNATE SIGMA SYMBOLxLUNATE SIGMA SYMBOLoTHETA SYMBOLgDASIAl AND OXIAqPERI",
    "SPOMENIqVARIAhIALYTIKA AND OXIAuPERISPOMENIuVARIAqTONOShRACHMA SIGNgFIVE OBOLS SIGNhOUR OBOL",
    "S SIGNgGRAMMA SIGNgINDICTION SIGNiSTRUMENTAL NOTATION SYMBOL-1zl1zl2zl3zl4zl7zl8zl9zk2zl3zl4",
    "zl5zl6zl7zl9zk30zl2zl6zl7zl8zl9zk4zl0zl2zl3zl5zl7zl8zl9zk5zl0zl1zl2zl3zl4zk7zk8gKAI SYMBOLiP",
    "PA SYMBOLhORONIShYATHOS BASE SIGNgLETTER ARCHAIC KOPPAnDIGAMMAnKOPPAnSAMPIoMALL CAPITAL GAMM",
    "AzcLAMDAzcOMEGAzcPIzdSIzcRHOoTIGMAnYOThITRA SIGNhOWER NUMERAL SIGNhUNATE EPSILON SYMBOLnSIGM",
    "A SYMBOLgMETRETES SIGNhUSICAL LEIMMAgNUMERAL SIGNgOBOL SIGNhNE HALF SIGNt ALTERNATE FORMkQUA",
    "RTER SIGNhUNKIA SIGNhXIAgPERISPOMENIhHI SYMBOLhI SYMBOLhROSGEGRAMMENIhSILIl AND OXIAqPERISPO",
    "MENIqVARIAgQUESTION MARKgREVERSED LUNATE EPSILON SYMBOLhHO SYMBOLkWITH STROKE SYMBOLgSINUSOI",
    "D SIGNhMALL DOTTED LUNATE SIGMA SYMBOLmLETTER ALPHAy WITH DASIAzk AND OXIAzt AND YPOGEGRAMME",
    "NIzpPERISPOMENIzzb AND YPOGEGRAMMENIzpVARIAzu AND YPOGEGRAMMENIzpYPOGEGRAMMENIzfMACRONzfOXIA",
    "zj AND YPOGEGRAMMENIzfPERISPOMENIzq AND YPOGEGRAMMENIzgSILIzk AND OXIAzt AND YPOGEGRAMMENIzp",
    "PERISPOMENIzzb AND YPOGEGRAMMENIzpVARIAzu AND YPOGEGRAMMENIzpYPOGEGRAMMENIzfTONOSzfVARIAzk A",
    "ND YPOGEGRAMMENIzgRACHYzfYPOGEGRAMMENIuRCHAIC KOPPAzcSAMPItBETAtCHItDELTAuIGAMMAtEPSILONzb W",
    "ITH DASIAzm AND OXIAzrVARIAzhOXIAzhPSILIzm AND OXIAzrVARIAzhTONOSzhVARIAuTAw WITH DASIAzi AN",
    "D OXIAzr AND YPOGEGRAMMENIznPERISPOMENIzy AND YPOGEGRAMMENIznVARIAzs AND YPOGEGRAMMENIznYPOG",
    "EGRAMMENIzdOXIAzh AND YPOGEGRAMMENIzdPERISPOMENIzo AND YPOGEGRAMMENIzeSILIzi AND OXIAzr AND ",
    "YPOGEGRAMMENIznPERISPOMENIzy AND YPOGEGRAMMENIznVARIAzs AND YPOGEGRAMMENIznYPOGEGRAMMENIzdTO",
    "NOSzdVARIAzi AND YPOGEGRAMMENIzdYPOGEGRAMMENItFINAL SIGMAtGAMMAtHETAtIOTAx WITH DASIAzj AND ",
    "OXIAzoPERISPOMENIzoVARIAzfIALYTIKAzn AND OXIAzsPERISPOMENIzsTONOSzsVARIAzeMACRONzeOXIAzePERI",
    "SPOMENIzfSILIzj AND OXIAzoPERISPOMENIzoVARIAzeTONOSzeVARIAzfRACHYtKAPPAuOPPAtLAMDAtMUtNUtOME",
    "GAy WITH DASIAzk AND OXIAzt AND YPOGEGRAMMENIzpPERISPOMENIzzb AND YPOGEGRAMMENIzpVARIAzu AND",
    " YPOGEGRAMMENIzpYPOGEGRAMMENIzfOXIAzj AND YPOGEGRAMMENIzfPERISPOMENIzq AND YPOGEGRAMMENIzgSI",
    "LIzk AND OXIAzt AND YPOGEGRAMMENIzpPERISPOMENIzzb AND YPOGEGRAMMENIzpVARIAzu AND YPOGEGRAMME",
    "NIzpYPOGEGRAMMENIzfTONOSzfVARIAzk AND YPOGEGRAMMENIzfYPOGEGRAMMENIvICRONzb WITH DASIAzm AND ",
    "OXIAzrVARIAzhOXIAzhPSILIzm AND OXIAzrVARIAzhTONOSzhVARIAtPAMPHYLIAN DIGAMMAuHIuIuSItRHOw WIT",
    "H DASIAzdPSILItSAMPIvNuHOuIGMAuTIGMAtTAUuHETAtUPSILONzb WITH DASIAzm AND OXIAzrPERISPOMENIzr",
    "VARIAziIALYTIKAzq AND OXIAzvPERISPOMENIzvTONOSzvVARIAzhMACRONzhOXIAzhPERISPOMENIziSILIzm AND",
    " OXIAzrPERISPOMENIzrVARIAzhTONOSzhVARIAziRACHYtXItZETAmREVERSED DOTTED LUNATE SIGMA SYMBOLvL",
    "UNATE SIGMA SYMBOLhUBSCRIPT SMALL LETTER BETAzeCHIzeGAMMAzePHIzeRHOhYMBOL TAU RHOgTALENT SIG",
    "NhHETA SYMBOLiREE OBOLS SIGNmQUARTERS SIGNhONOShRYBLION BASE SIGNhWO OBOLS SIGNkTHIRDS SIGNg",
    "UPSILON WITH ACUTE AND HOOK SYMBOLtDIAERESIS AND HOOK SYMBOLtHOOK SYMBOLgVARIAhOCAL NOTATION",
    " SYMBOL-1ze0ze1ze2ze3ze4ze5ze6ze7ze8ze9zd2ze0ze1ze2ze3ze4zd3zd4zd5ze0ze1ze2ze3ze4zd6zd7zd8zd",
    "9gXESTES SIGNgYEAR SIGNhPOGEGRAMMENIgZERO SIGNeN APPLEgBOOKgHEARTgSALADcIMACING FACEdNNING C",
    "AT FACE WITH SMILING EYESjFACEn WITH ONE LARGE AND ONE SMALL EYEtSMILING EYESuTAR EYEScOUP M",
    "ARKgSEPARATORdWING HEARTbSbUARANI SIGNeDSMANcIDE DOGdTARcJARATI ABBREVIATION SIGNjDIGIT EIGH",
    "TpFIVEqOURpNINEpONEpSEVENqIXpTHREEqWOpZEROjLETTER ArArIrUqBArHAqCArHAqDArDAsHArHAqEqGArHAqHA",
    "qIrIqJArHAqKArHAqLArLAqMAqNArGArNArYAqOqPArHAqRAqSArHArSAqTArHArTAsHAqUrUqVArOCALIC LzaLyRza",
    "RqYAqZHAjOMjRUPEE SIGNjSIGN ANUSVARApVAGRAHAoCANDRABINDUpIRCLE NUKTA ABOVEoMADDAHoNUKTAoSHAD",
    "DApUKUNoTHREE-DOT NUKTA ABOVEpWO-CIRCLE NUKTA ABOVEoVIRAMAqSARGAjVOWEL CANDRA EwOpSIGN AAvIv",
    "UuCANDRA EzcOuEuIvIuOuUvUuVOCALIC LzeLzdRzeRcNJALA GONDI DIGIT EIGHTuFIVEvOURuNINEuONEuSEVEN",
    "vIXuTHREEvWOuZEROoLETTER AwAwIwUvBAwHAvCAwHAvDAwDAxHAwHAvEEvGAwHAvHAvIwIvJAwHAvKAwHAvLAwLAvM",
    "AvNAwGAvOOvPAwHAvRAvSAvTAwHAwTAxHAvUwUvVAvYAoOMoSIGN ANUSVARAtVISARGAoVIRAMApOWEL SIGN AAzbI",
    "zbUzaEEzaIzbIzaOOzaUzbUcRMUKHI ABBREVIATION SIGNkDDAKjDIGIT EIGHTpFIVEqOURpNINEpONEpSEVENqIX",
    "pTHREEqWOpZEROjEK ONKARjIRIjLETTER ArArIrUqBArHAqCArHAqDArDAsHArHAqEEqFAqGArHAsHAqHAqIrIqJAr",
    "HAqKArHAsHAqLArLAqMAqNArGArNArYAqOOqPArHAqRArRAqSArHAqTArHArTAsHAqUrUqVAqYAqZAjSIGN ADAK BIN",
    "DIoBINDIoNUKTAoUDAAToVIRAMAqSARGAoYAKASHjTIPPIjURAjVOWEL SIGN AAvIvUuEEuIvIuOOuUvUaHADEScIR ",
    "SPACEeCUTcLFWIDTH BLACK SQUAREkDOWNWARDS ARROWkFORMS LIGHT VERTICALkHANGUL FILLERrLETTER Aza",
    "EyCHIEUCHzaIEUCyEzaOzaUyHIEUHyIzaEUNGyKHIEUKHzaIYEOKzf-SIOSyMIEUMyNIEUNze-CIEUCzfHIEUHyOzaEy",
    "PHIEUPHzaIEUPze-SIOSyRIEULze-HIEUHzfKIYEOKzfMIEUMzfPHIEUPHzgIEUPzfSIOSzfTHIEUTHySIOSzaSANGCI",
    "EUCzeKIYEOKzePIEUPzeSIOSzeTIKEUTyTHIEUTHzaIKEUTyUyWAzbEzaEzbOzaIyYAzbEzaEzbOzaIzaOzaUkIDEOGR",
    "APHIC COMMAwFULL STOPkKATAKANA LETTER AzbEzbHAzcEzcIzcOzcUzbIzbKAzcEzcIzcOzcUzbMAzcEzcIzcOzc",
    "UzbNzcAzcEzcIzcOzcUzbOzbRAzcEzcIzcOzcUzbSAzcEzcIzcMALL AzhEzhIzhOzhTUzhUzhYAziOziUzcOzcUzbTA",
    "zcEzcIzcOzcUzbUzbWAzcOzbYAzcOzcUtMIDDLE DOTtSEMI-VOICED SOUND MARKtVOICED SOUND MARKs-HIRAGA",
    "NA PROLONGED SOUND MARKkLEFT CORNER BRACKEToWARDS ARROWkRIGHT CORNER BRACKETpWARDS ARROWkUPW",
    "ARDS ARROWkWHITE CIRCLEcMBURGERdMERg AND PICKlSICKLElWRENCHdSAeTER FACEcND WITH INDEX AND MI",
    "DDLE FINGERS CROSSEDqFINGER AND THUMB CROSSEDeBAGgLLeSHAKEdGUL CHOSEONG CEONGCHIEUMCHIEUCHzd",
    "IEUCzcSIOSzdSANGCIEUCzhSIOSrHIEUCHx-HIEUHyKHIEUKHtTUEUMCHIEUCHzaIEUCySIOSzaSANGCIEUCzeSIOSrI",
    "EUCv-IEUNGqFILLERqHIEUHv-SIOSqIEUNGv-CHIEUCHxIEUCwHIEUHwKIYEOKwMIEUMwPANSIOSxHIEUPHxIEUPwRIE",
    "ULwSIOSwTHIEUTHxIKEUTqKAPYEOUNMIEUMyPHIEUPHzaIEUPyRIEULySSANGPIEUPrHIEUKHrIYEOKw-TIKEUTqMIEU",
    "Mv-KIYEOKwPIEUPwSIOSwTIKEUTqNIEUNv-CIEUCwHIEUHwKIYEOKwPIEUPwSIOSwTIKEUTqPANSIOSrHIEUPHx-HIEU",
    "HyPIEUPrIEUPv-CHIEUCHxIEUCwHIEUHwKHIEUKHxIYEOKwNIEUNwPHIEUPHwSIOSzb-CIEUCzcKIYEOKzcPIEUPzcTH",
    "IEUTHzdIKEUTxSANGSIOSwTHIEUTHxIKEUTqRIEULv-CIEUCwHIEUHwKAPYEOUNPIEUPxHIEUKHxIYEOKwMIEUMwNIEU",
    "NwPIEUPwSIOSxSANGKIYEOKzcPIEUPzcTIKEUTwTIKEUTqSIOSu-CHIEUCHwIEUCvHIEUHvIEUNGvKHIEUKHwIYEOKvM",
    "IEUMvNIEUNvPHIEUPHwIEUPzb-KIYEOKvRIEULvSSANGSIOSvTHIEUTHwIKEUTrSANGCIEUCzb-HIEUHvHIEUHvIEUNG",
    "vKIYEOKvNIEUNvPIEUPvRIEULvSIOSza-PIEUPvTHIEUTHwIKEUTvYEORINHIEUHqTHIEUTHrIKEUTw-CIEUCxKIYEOK",
    "xMIEUMxPIEUPxRIEULxSIOSqYEORINHIEUHsSIEUNGhDOUBLE DOT TONE MARKhFILLERhJONGSEONG CHIEUCHsIEU",
    "Cw-PIEUPxSSANGPIEUPrHIEUHw-MIEUMxNIEUNxPIEUPxRIEULrIEUNGw-KHIEUKHyIYEOKxSSANGKIYEOKrKAPYEOUN",
    "MIEUMzaPHIEUPHzbIEUPzaRIEULsHIEUKHsIYEOKx-CHIEUCHyHIEUHyKHIEUKHyNIEUNyPIEUPyRIEULySIOSzd-KIY",
    "EOKrMIEUMw-CHIEUCHyIEUCxHIEUHxKIYEOKxNIEUNxPANSIOSyIEUPzd-SIOSxRIEULxSIOSySANGNIEUNzdSIOSrNI",
    "EUNw-CHIEUCHyIEUCxHIEUHxKIYEOKxPANSIOSxRIEULxSIOSxTHIEUTHyIKEUTrPANSIOSy-KAPYEOUNPIEUPzaPIEU",
    "PsHIEUPHy-PIEUPzaSIOSzaTHIEUTHsIEUPw-CHIEUCHyIEUCxHIEUHxMIEUMxPHIEUPHxRIEULzd-PHIEUPHxSIOSzc",
    "-TIKEUTxTIKEUTrRIEULw-HIEUHxKAPYEOUNPIEUPyHIEUKHyIYEOKze-HIEUHzfSIOSxMIEUMzd-HIEUHzeKIYEOKze",
    "SIOSxNIEUNxPANSIOSyHIEUPHyIEUPzd-HIEUHzePHIEUPHzeSIOSzeTIKEUTxSIOSySANGKIYEOKzdSIOSxTHIEUTHy",
    "IKEUTze-HIEUHxYEORINHIEUHzj-HIEUHzaSIEUNGrSIOSv-CHIEUCHxIEUCwHIEUHwKAPYEOUNPIEUPxIYEOKwMIEUM",
    "wPANSIOSxIEUPwRIEULwTHIEUTHxIKEUTsSANGCIEUCwIEUNGwKIYEOKwMIEUMwNIEUNwPIEUPwRIEULzc-KHIEUKHwS",
    "IOSzb-KIYEOKzcTIKEUTwTIKEUTzd-PIEUPwYESIEUNGrTHIEUTHsIKEUTx-CHIEUCHzaIEUCyKIYEOKyPIEUPyRIEUL",
    "ySIOSzd-KIYEOKyTHIEUTHrYEORINHIEUHtSIEUNGza-HIEUHzbKHIEUKHzcIYEOKzbMIEUMzbPANSIOSzbSIOSzcSAN",
    "GKIYEOKiUNGSEONG As-EUtOtUsEsRAEAw-AxEyOxIxUrEsOt-EUuOuUsUt-AuEvOvUuOuUrFILLERrIs-AuRAEAtEUt",
    "ItOu-ItUtYAv-OvEuEvOuOuUrOs-EuOtOu-ItUtYAvEuEvOsErSSANGARAEArUs-AuEtEO-EUtI-ItUtYEvOrWAtEsEt",
    "OsIrYAt-OuUuYOtEsEtOu-OvUvYAsIt-UsOt-AvEuEOuIuOuYAwEvEOsUt-AvEuEvOuIuOuUuYEwOhLETTER ApEpRAE",
    "AtEoCHIEUCHpIEUCoEpOpUoHIEUHoIpEUNGoKAPYEOUNMIEUMwPHIEUPHxIEUPwSSANGPIEUPpHIEUKHpIYEOKu-SIOS",
    "oMIEUMt-PANSIOSvIEUPuSIOSoNIEUNt-CIEUCuHIEUHuPANSIOSuSIOSuTIKEUToOpEoPANSIOSpHIEUPHpIEUPt-CI",
    "EUCuKIYEOKuSIOSy-KIYEOKzaTIKEUTuTHIEUTHvIKEUToRIEULt-HIEUHuKIYEOKzb-SIOSuMIEUMuPANSIOSvHIEUP",
    "HvIEUPza-SIOSuSIOSuTHIEUTHvIKEUTuYEORINHIEUHoSIOSs-CIEUCtKIYEOKtNIEUNtPIEUPtTIKEUTpSANGCIEUC",
    "tHIEUHtIEUNGtKIYEOKtNIEUNtPIEUPtSIOStTIKEUToTHIEUTHpIKEUToUoWAqEpEqOpIoYAqEpEqOrRINHIEUHqSIE",
    "UNGw-PANSIOSxSIOSpIpOq-IrYAtEpUq-IrYEtOhSINGLE DOT TONE MARKeZHOU NUMERAL EIGHTrFIVEsOURrNIN",
    "ErONErSEVENsIXrTENsHIRTYtREEsWENTYtOdIFI ROHINGYA DIGIT EIGHTwFIVExOURwNINEwONEwSEVENxIXwTHR",
    "EExWOwZEROqLETTER AxBAxCAxDAyDAxFAxGAxHAxJAxKAyHAyINNA WAzeYAxLAxMAxNAyGAyYAxPAxRAyRAxSAyHAx",
    "TAyTAxVAxWAxYAxZAqMARK NA KHONNAvSAKINqSIGN HARBAHAYvTAHALAxNAxSSIqVOWEL AwEwIwOwUdUNOO LETT",
    "ER ApBApDApGApHApIpKApLApMApNAqGApPApRApSApTApUpWApYAiSIGN PAMUDPODiVOWEL SIGN ItUcPPY PERSO",
    "N RAISING ONE HANDcRD DISKcTCHING CHICKdRAN LETTER ALEPHpYNoBETHoDALETH-RESHoGIMELoHEqTHoKAP",
    "HoLAMEDHoMEMoNUNoPEoQOPHoSADHEqMEKHpHINoTAWpETHoWAWoYODHoZAYNhNUMBER FIVEoONEr HUNDREDoTENpW",
    "ENTYbEADPHONEeSTONEj GRAVEYARD SYMBOLdR-NO-EVIL MONKEYeT DECORATIONgHANDSgWITH ARROWlRIBBONl",
    "TIP ON THE LEFTdVY AMPERSAND ORNAMENThRROW SHAFT WIDTH ONEzc HALFzdTHIRDyTWO THIRDShSTERISKg",
    "BALLOT XhLACK CURVED DOWNWARDS AND RIGHTWARDS ARROWtUPWARDS AND RIGHTWARDS ARROWmHEARTl-FEAT",
    "HERED NORTH EAST ARROWwRIGHTWARDS ARROWwSOUTH EAST ARROWgCHECK MARKjVRON SNOWFLAKEhIRCLEm WI",
    "TH CIRCLE INSIDEsSTROKE AND TWO DOTS ABOVEmD SALTIREhONCAVE-POINTED BLACK RIGHTWARDS ARROWgD",
    "ASHED TRIANGLE-HEADED RIGHTWARDS ARROWhIVISION SIGNhOLLAR SIGNiUBLE COMMA QUOTATION MARK ORN",
    "AMENTnTURNED COMMA QUOTATION MARK ORNAMENTiWNWARDS ARROW WITH EQUILATERAL ARROWHEADzcLARGE E",
    "QUILATERAL ARROWHEADgEIGHT POINTED BLACK STARuPINWHEEL STARuRECTILINEAR BLACK STARmSPOKED AS",
    "TERISKmTEARDROP-SPOKED PROPELLER ASTERISKhQUALS SIGNhXCLAMATION MARK ORNAMENTxSYMBOLgFIVE PO",
    "INTED BLACK STARlSPOKED ASTERISKhOUR BALLOON-SPOKED ASTERISKgGREEK CROSSgHEART EXCLAMATION M",
    "ARK ORNAMENThORIZONTAL FILLgINTERROBANG ORNAMENTgLARGE CIRCLEiTIN CROSShEFT-POINTING ANGLE B",
    "RACKET ORNAMENTzbQUOTATION MARK ORNAMENTkWARDS ARROW WITH EQUILATERAL ARROWHEADzcLARGE EQUIL",
    "ATERAL ARROWHEADhIGATURE OPEN ET ORNAMENThOW DOUBLE COMMA QUOTATION MARK ORNAMENTkSINGLE COM",
    "MA QUOTATION MARK ORNAMENTjER RIGHT-SHADOWED WHITE RIGHTWARDS ARROWgMINUS SIGNhULTIPLICATION",
    " XgNORTH EAST ARROWrPOINTING BUDzbVINE LEAFmWEST POINTING BUDzbVINE LEAFgOPEN CENTRE CROSShU",
    "TLINED BLACK STARhVAL WITH OVAL INSIDEgPLUS SIGNgRIGHT-POINTING ANGLE BRACKET ORNAMENTzcQUOT",
    "ATION MARK ORNAMENTlWARDS ARROWw WITH EQUILATERAL ARROWHEADzdLARGE EQUILATERAL ARROWHEADhOUN",
    "D-TIPPED RIGHTWARDS ARROWgSALTIREiNS-SERIF INTERROBANG ORNAMENThCRIPT LIGATURE ET ORNAMENThI",
    "NGLE COMMA QUOTATION MARK ORNAMENTnTURNED COMMA QUOTATION MARK ORNAMENTiX POINTED BLACK STAR",
    "kSPOKED ASTERISKhOUTH EAST ARROWrPOINTING BUDzbVINE LEAFmWEST POINTING BUDzbVINE LEAFhPARKLE",
    "gTEARDROP-SHANKED RIGHTWARDS ARROWqPOKED ASTERISKwPINWHEEL ASTERISKhRIANGLE-HEADED RIGHTWARD",
    "S ARROWhWELVE POINTED BLACK STARvPINWHEEL STARgUPPER RIGHT-SHADOWED WHITE RIGHTWARDS ARROWiW",
    "ARDS ARROW WITH EQUILATERAL ARROWHEADzaLARGE EQUILATERAL ARROWHEADgVERTICAL BARgWEDGE-TAILED",
    " RIGHTWARDS ARROWhHITE CIRCLEmDOWN-POINTING TRIANGLEmSQUAREhIDE-HEADED RIGHTWARDS ARROWcBREW",
    " ACCENT ATNAH HAFUKHoDARGApEHIoETNAHTAoGERESHu MUQDAMrSHAYIMoILUYoMAHAPAKHpERKHAu KEFULApUNA",
    "HoOLEoPASHTAqZERoQADMAqRNEY PARAoREVIAoSEGOLpHALSHELEToTELISHA GEDOLAwQETANAqVIRpIPEHAoYERAH",
    " BEN YOMOqTIVoZAQEF GADOLuQATANqRQApINORhLETTER ALEFs WITH MAPIQyPATAHyQAMATSqTERNATIVE AYIN",
    "zbPLUS SIGNpYINoBETr WITH DAGESHxRAFEoDALETt WITH DAGESHoFINAL KAFx WITH DAGESHuMEMuNUNuPEw ",
    "WITH DAGESHuTSADIoGIMELt WITH DAGESHoHEq WITH MAPIQqToKAFr WITH DAGESHxRAFEoLAMEDt WITH DAGE",
    "SHoMEMr WITH DAGESHoNUNr WITH DAGESHoPEq WITH DAGESHwRAFEoQOFr WITH DAGESHoRESHs WITH DAGESH",
    "oSAMEKHu WITH DAGESHpHINs WITH DAGESHzf AND SHIN DOTzlIN DOTySHIN DOTzaIN DOToTAVr WITH DAGE",
    "SHpETr WITH DAGESHpSADIt WITH DAGESHoVAVr WITH DAGESHxHOLAMoWIDE ALEFtDALETtFINAL MEMtHEtKAF",
    "tLAMEDtRESHtTAVoYODr WITH DAGESHxHIRIQoZAYINt WITH DAGESHiIGATURE ALEF LAMEDqYIDDISH DOUBLE ",
    "VAVzgYODyVAV YODyYOD YOD PATAHhMARK LOWER DOTmMASORA CIRCLEmUPPER DOThPOINT DAGESH OR MAPIQn",
    "HATAF PATAHtQAMATStSEGOLoIRIQoOLAMs HASER FOR VAVnJUDEO-SPANISH VARIKAnMETEGnPATAHnQAMATSt Q",
    "ATANoUBUTSnRAFEnSEGOLoHEVApIN DOToIN DOTnTSEREiUNCTUATION GERESHwSHAYIMtMAQAFtNUN HAFUKHAtPA",
    "SEQtSOF PASUQhYOD TRIANGLEcDGEHOGcLICOPTERdLSCHREIBER PAUSE SYMBOLdM SYMBOLeET WITH WHITE CR",
    "OSScNTAIGANA LETTER A-1u2u3uWOsE-1u2u3u4u5u6sHA-1w0w1v2v3v4v5v6v7v8v9tE-1v2v3v4v5v6v7tI-1v2v",
    "3v4v5v6v7tO-1v2v3v4v5v6v7v8tU-1v2v3sI-1u2u3u4sKA-1w0w1v2v3v4v5v6v7v8v9vKEtE-1v2v3v4v5v6tI-1v",
    "2v3v4v5v6v7v8tO-1v2v3vKItU-1v2v3v4v5v6v7sMA-1v2v3v4v5v6v7tE-1v2vMAtI-1v2v3v4v5v6v7tO-1v2v3v4",
    "v5v6tU-1v2v3v4sN-MU-MO-1zb2tA-1v2v3v4v5v6v7v8v9tE-1v2v3v4v5v6vKOtI-1v2v3v4v5v6v7vTEtO-1v2v3v",
    "4v5tU-1v2v3sO-1u2u3sRA-1v2v3v4tE-1v2v3v4tI-1v2v3v4v5v6v7tO-1v2v3v4v5v6tU-1v2v3v4v5v6sSA-1v2v",
    "3v4v5v6v7v8tE-1v2v3v4v5tI-1v2v3v4v5v6tO-1v2v3v4v5v6v7tU-1v2v3v4v5v6v7v8sTA-1v2v3v4tE-1v2v3v4",
    "v5v6v7v8v9tI-1v2v3v4v5v6v7tO-1v2v3v4v5v6vRAtU-1v2v3v4vTOsU-1u2u3u4u5sWA-1v2v3v4v5tE-1v2v3v4t",
    "I-1v2v3v4v5tO-1v2v3v4v5v6v7sYA-1v2v3v4v5vYOtO-1v2v3v4v5v6tU-1v2v3v4cRBdMITIAN CONJUGATE MATR",
    "IXcXAGRAM FOR ABUNDANCEoFTER COMPLETIONoPPROACHnBEFORE COMPLETIONoITING THROUGHoREAKTHROUGHn",
    "COMING TO MEETpNFLICTqTEMPLATIONnDARKENING OF THE LIGHToECREASEpLIVERANCEpVELOPMENToIFFICULT",
    "Y AT THE BEGINNINGpSPERSIONoURATIONnENTHUSIASMnFELLOWSHIPoOLLOWINGnGATHERING TOGETHERoRACEpE",
    "AT POSSESSIONvWERuREPONDERANCEtTAMINGnHOLDING TOGETHERnINCREASEpFLUENCEpNER TRUTHqOCENCEnLIM",
    "ITATIONnMODESTYpUTH CORNERSnOBSTRUCTIONoPPOSITIONqRESSIONnPEACEoROGRESSoUSHING UPWARDnRETREA",
    "TqURNpVOLUTIONnSMALL PREPONDERANCEtTAMINGoPLITTING APARToTANDSTILLnTHE ABYSMAL WATERsRMYtOUS",
    "ING THUNDERrCAULDRONsLINGING FIREsREATIVE HEAVENrFAMILYrGENTLE WINDrJOYOUS LAKErKEEPING STIL",
    "L MOUNTAINrMARRYING MAIDENrRECEPTIVE EARTHrWANDERERsELLoREADINGnWAITINGoORK ON THE DECAYEDnY",
    "OUTHFUL FOLLYbIBISCUScGH BRIGHTNESS SYMBOLfOCTET PRESETfVOLTAGE SIGNe-HEELED SHOEfSPEED TRAI",
    "Nq WITH BULLET NOSEcKING BOOTcNDU TEMPLEcPPOPOTAMUScRAGANA DIGRAPH YORIjITERATION MARKjLETTE",
    "R ArRCHAIC WUyYEqBArErIrOrUqDArErIrOrUqEqGArErIrOrUqHArErIrOrUqIqKArErIrOrUqMArErIrOrUqNrArE",
    "rIrOrUqOqPArErIrOrUqRArErIrOrUqSArErIrMALL AwEwIwKAxEwOwTUwUwWAxExIxOwYAxOxUrOrUqTArErIrOrUq",
    "UqVUqWArErIrOqYArOrUqZArErIrOrUjVOICED ITERATION MARKcSTORIC SITEbOCHOcLEdLOW QUILT SQUARE O",
    "RNAMENTzd IN BLACK SQUAREcMOTHETICcNEY POTfBEEcOKcPcRIZONTAL BARmLACK HEXAGONrOCTAGONlELLIPS",
    "ISlLINE EXTENSIONlMALE WITH STROKE SIGNlONE EIGHTH BLOCK-1358zd2zd3zd4zd5zd6zd7lSCAN LINE-1v",
    "3v7v9lTAB KEYoULATIONv SETwWITH JUSTIFICATIONmRAFFIC LIGHTdSEf FACEgRACINGcSPITALcT BEVERAGE",
    "eDOGePEPPEReSPRINGSdELcURGLASSj WITH FLOWING SANDdSEf BUILDINGoSgWITH GARDENbRYVNIA SIGNbTcJ",
    "cSbUGGING FACEcNDRED POINTS SYMBOLcSHED FACEcTbYGIEAcPHENg BULLEThWITH DIAERESISg-MINUSgATIO",
    "N POINTdODIASTOLEcSTERESIS SYMBOLaI LOVE YOU HAND SIGNbCE CREAMfUBEeHOCKEY STICK AND PUCKeSK",
    "ATEbDENTICAL TOm AND SLANTED PARALLELkWITH DOT ABOVEgFICATION CARDdOGRAPHIC ANNOTATION BOTTO",
    "M MARKxEARTH MARKxFIRST MARKyOUR MARKzcTH MARKxHEAVEN MARKxLINKING MARKxMAN MARKyIDDLE MARKx",
    "ONE MARKxREVERSE MARKxSECOND MARKxTHIRD MARKzaREE MARKyOP MARKyWO MARKmCLOSING MARKnOMMAmDEP",
    "ARTING TONE MARKoSCRIPTION CHARACTER ABOVE TO BELOWzsMIDDLE AND BELOWzjFULL SURROUNDzjLEFT T",
    "O MIDDLE AND RIGHTzrRIGHTzjOVERLAIDzjSURROUND FROM ABOVEzxBELOWzxLEFTzyOWER LEFTzxUPPER LEFT",
    "zzeRIGHTmENTERING TONE MARKmFULL STOPmHALF FILL SPACEmITERATION MARKmLEVEL TONE MARKmNUMBER ",
    "ZEROmRISING TONE MARKmSPACEmTALLY MARK FIVEyOURxONExTHREEyWOnELEGRAPH LINE FEED SEPARATOR SY",
    "MBOLwSYMBOL FOR APRILzjUGUSTziDAY EIGHTzrEENznLEVENzmFIFTEENzoVEznOURzqTEENzmNINEzqTEENzmONE",
    "zmSEVENzrTEENznIXzpTEENzmTENznHIRTEENzrYzs-ONEzoREEznWELVEzpNTYzs-EIGHTztFIVEzuOURztNINEztON",
    "EztSEVENzuIXztTHREEzuWOzoOzjECEMBERziFEBRUARYziHOUR EIGHTzsEENzoLEVENznFIFTEENzpVEzoOURzrTEE",
    "NznNINEzrTEENznONEznSEVENzsTEENzoIXzqTEENznTENzoHIRTEENzpREEzoWELVEzqNTYzt-FOURzuONEzuTHREEz",
    "vWOzpOznZEROziJANUARYzjULYzkNEziMARCHzkYziNOVEMBERziOCTOBERziSEPTEMBERmVARIATION INDICATORbM",
    "AGE OFi OR APPROXIMATELY EQUAL TOcPdERIAL ARAMAIC LETTER ALEPHzaYINyBETHyDALETHyGIMELyHEzbTH",
    "yKAPHyLAMEDHyMEMyNUNyPEyQOPHyRESHySADHEzbMEKHzaHINyTAWzaETHyWAWyYODHyZAYINrNUMBER ONEzc HUND",
    "REDzdTHOUSANDyTENzc THOUSANDzaHREEzaWENTYzbOrSECTION SIGNbNBOX TRAYcCOMING ENVELOPEfPLETE IN",
    "FINITYdREASE FONT SIZE SYMBOLiS ASfMENTcDdEXf POINTING AT THE VIEWERdIAN RUPEE SIGNeC SIYAQ ",
    "ALTERNATE LAKH MARKmFRACTION ONE HALFzaQUARTERvTHREE QUARTERSmLAKH MARKmNUMBER ALTERNATE ONE",
    "zeTEN THOUSANDzfWOtEIGHTy HUNDREDzaTHOUSANDyYza THOUSANDtFIFTYy THOUSANDvVEx HUNDREDyTHOUSAN",
    "DuORTYy THOUSANDvURx HUNDREDyTHOUSANDtKARORyANtLAKHxANtNINEx HUNDREDyTHOUSANDxTYza THOUSANDt",
    "ONEw HUNDREDxTHOUSANDtPREFIXED EIGHTzdFIVEzeOURzdNINEzdONEzdSEVENzeIXzdTHREEzeWOtSEVENy HUND",
    "REDzaTHOUSANDyTYzb THOUSANDuIXw HUNDREDxTHOUSANDwTYy THOUSANDtTENw THOUSANDuHIRTYza THOUSAND",
    "vREEy HUNDREDzaTHOUSANDuWENTYza THOUSANDvOw HUNDREDxTHOUSANDmPLACEHOLDERmRUPEE MARKcFINITYi ",
    "NEGATED WITH VERTICAL BARdORMATION DESK PERSONmSEPARATOR FOURwONEwTHREExWOnOURCEcHIBIT ARABI",
    "C FORM SHAPINGiSYMMETRIC SWAPPINGcPUT SYMBOL FOR LATIN CAPITAL LETTERSxLETTERSxSMALL LETTERS",
    "rNUMBERSrSYMBOLScSCRIPTIONAL PAHLAVI LETTER ALEPHzeBETHzeDALETHzeGIMELzeHEzgTHzeKAPHzeLAMEDH",
    "zeMEM-QOPHzeNUNzePEzeSADHEzgMEKHzfHINzeTAWzfETHzeWAW-AYIN-RESHzeYODHzeZAYINwNUMBER FOURzeONE",
    "zh HUNDREDziTHOUSANDzeTENzfHREEzfWENTYzgOqRTHIAN LETTER ALEPHzgYINzfBETHzfDALETHzfGIMELzfHEz",
    "hTHzfKAPHzfLAMEDHzfMEMzfNUNzfPEzfQOPHzfRESHzfSADHEzhMEKHzgHINzfTAWzgETHzfWAWzfYODHzfZAYINxNU",
    "MBER FOURzfONEzi HUNDREDzjTHOUSANDzfTENzgHREEzgWENTYzhOdERTION SYMBOLcTEGRALi AROUND A POINT",
    " OPERATORkVERAGE WITH SLASHjEXTENSIONjWITH DOUBLE STROKEoINTERSECTIONoLEFTWARDS ARROW WITH H",
    "OOKoOVERBARoTIMES SIGNoUNDERBARqIONeRCALATEfIOR PRODUCTfLINEAR ANNOTATION ANCHORxSEPARATORxT",
    "ERMINATORgOCKED FEMALE AND MALE SIGNfROBANGfSECTIONm ABOVE BAR ABOVE UNIONtUNIONnBESIDE AND ",
    "JOINED WITH INTERSECTIONnWITH DOTsLOGICAL ANDsOVERBARcVERSE BULLETiCHECK MARKnER BOARD FILLi",
    "DOWNWARDS ARROW WITH TIP LEFTWARDSiMEDIUM SHADEiWHITE CIRCLEfTED EXCLAMATION MARKjINTERROBAN",
    "GjLAZY SkOW KAVYKAt WITH KAVYKA ABOVEjOHM SIGNjPENTAGRAMjQUESTION MARKjUNDERTIEdISIBLE PLUSk",
    "SEPARATORkTIMESbZAKAYA LANTERNaJACK-O-LANTERNcPANESE BANK SYMBOLjCASTLEjDOLLSjGOBLINjINDUSTR",
    "IAL STANDARD SYMBOLjOGREjPOST OFFICEjSYMBOL FOR BEGINNERcRcVANESE CONSONANT SIGN CAKRAyKERET",
    "yPENGKALjDIGIT EIGHTpFIVEqOURpNINEpONEpSEVENqIXpTHREEqWOpZEROjLEFT RERENGGANlTTER ArIqBAs MU",
    "RDAqCAs MURDAqDAs MAHAPRANArDAt MAHAPRANAqEqGAs MURDAqHAqIr KAWIrIqJAs MAHAPRANAqKAs MURDAtS",
    "ASAKqLAqMAqNAs MURDArGAt LELETza RASWADIrYAt MURDAqOqPAs CEREKtMURDAqRAs AGUNGqSAs MAHAPRANA",
    "uURDAqTAs MURDArTAt MAHAPRANAqUqWAqYAjPADA ADEGs ADEGpNDAPoISEN-ISENoLINGSApUHURqNGSIoMADYAo",
    "PANGKATpISELEHoTIRTA TUMETESoWINDUlNGKONnRANGKEPjRIGHT RERENGGANjSIGN CECAKt TELUoLAYARoPANY",
    "ANGGAoWIGNYANjTURNED PADA PISELEHjVOWEL SIGN DIRGA MUREuPEPETuSUKUy MENDUTuTALINGwRUNGvOLONG",
    "uWULUy MELIKbEANSbIGSAW PUZZLE PIECEbOINcYSTICKbUGGLINGcNOcPITERaKAABAcITHI ABBREVIATION SIG",
    "NhDANDAiOUBLE DANDAoSECTION MARKhENUMERATION SIGNhLETTER ApApIpUoBApHAoCApHAoDApDAqDHAqHApHA",
    "oEoGApHAoHAoIpIoJApHAoKApHAoLAoMAoNApGApNApYAoOoPApHAoRApHAoSApHApSAoTApHApTAqHAoUpUoVAoYAhN",
    "UMBER SIGNs ABOVEhSECTION MARKiIGN ANUSVARAmCANDRABINDUmNUKTAmVIRAMAoSARGAhVOWEL SIGN AAtItU",
    "sEsItIsOsUtUsVOCALIC RcNGAROOeXI RADICAL AGAINqNDqRRIVEsOWqXEpBADGERrMBOOqEANqIGrRDrTTERqLAC",
    "KrOODrUEqOATrDYrLT OF CLOTHrNErWqRANCHrISTLErUSHpCARTrULDRONrVEqHILDqITYqLANsWrIFFrOTHESqOLO",
    "RrMPARErRPSErVERrWpDEATHrERqIPPERrSHsTINGUISHrVINATIONqO NOTrGrORrTsTED CLIFFwTENTrUBLE XrWN",
    " BOXqRAGONrUMrYpEARsTHrTqIGHTqMBROIDERYqNCLOSURErTERqVENtINGqYEpFACErNGrTHERqEATHERqIELDrGHT",
    "rRErSHqLUTErYqOOTqRAGRANTrOGqURpGATEqHOSTqOr SLOWLYrLDqRAINsSSpHAIRrLBERDsF TREE TRUNKrNDqEA",
    "DsRTrMPqIDING ENCLOSUREqOOKrRNsSEpICEqNCHrSECTpJADErRpKNIFEpLACKrMEqEAFsTHERrEKrGSqIDrFErNEq",
    "ONGt STRIDEpMANqEATrLONqILLETrNISTERqOONrRNINGsTARrUNDtTAINsTHpNETqOSErTpOLDqNEsSELFqPEN BOX",
    "rPOSEpPIGqLOWqOWERqRIVATErOFOUNDpRAINrPrTqEDqICErGHT OPEN BOXrVERqOOFqUNpSACRIFICIAL WINErLT",
    "rYqCHOLARrRIPTqEALrCONDrErLFqHEEPsLLrOOTsRT TAILED BIRDwHREADqICKNESSrLKqKINqLASHsVErICEqMAL",
    "LqNOUTqOUNDqPEARsECHrIRITrOONrROUTqQUAREqTANDrEAMsPrONEsPtPINGqUNqWEETpTABLErLLrNNED LEATHER",
    "qENqIGERrLEqONGUErOTHqRACKrEErIPODqURBANsTLEqWOs HANDSpUSEpVALLEYqILLAGEpWALKt ENCLOSURErTER",
    "qEAPONrSTqHEATrITEqINDsEqOMANrRKqRAPrONGpYELLOWdNADA AI LENGTH MARKiDIGIT EIGHToFIVEpOURoNIN",
    "EoONEoSEVENpIXoTHREEpWOoZEROiLENGTH MARKkTTER AqAqIqUpBAqHApCAqHApDAqDArHAqHApEqEpFApGAqHApH",
    "ApIqIpJAqHApKAqHApLAqLArLApMApNArKAARA POLLUqGAqNAqYApOqOpPAqHApRAqRApSAqHAqSApTAqHAqTArHApU",
    "qUpVAqOCALIC LyLxRyRpYAiSIGN ANUSVARAoVAGRAHAnCANDRABINDUnJIHVAMULIYAnNUKTAnSIDDHAMoPACING C",
    "ANDRABINDUnUPADHMANIYAnVIRAMApSARGAiVOWEL SIGN AAuIuUtEuEtIuItOuOtUuUtVOCALIC LzdLzcRzdRcTAK",
    "ANA DIGRAPH KOTOjITERATION MARKjLETTER ArRCHAIC EyWUyYEzaIqBArErIrOrUqDArErIrOrUqEqGArErIrOr",
    "UqHArErIrOrUqIqKArErIrOrUqMArErIsNNAN NASALIZED TONE-1zn2zn3zn4zn5zn7zn8xTONE-2zd3zd4zd5zd7z",
    "d8rOrUqNrArErIrOrUqOqPArErIrOrUqRArErIrOrUqSArErIrMALL AwEwHAxExIxOxUwIwKAxExUwMUwNxUwOwRAxE",
    "xIxOxUwSIxUwTOxUwUwWAxExIxOwYAxOxUrOrUqTArErIrOrUqUqVArErIrOrUqWArErIrOqYArOrUqZArErIrOrUjMI",
    "DDLE DOTjVOICED ITERATION MARKi-HIRAGANA DOUBLE HYPHENsPROLONGED SOUND MARKsSEMI-VOICED SOUN",
    "D MARKsVOICED SOUND MARKcYAH LI DIGIT EIGHTpFIVEqOURpNINEpONEpSEVENqIXpTHREEqWOpZEROjLETTER ",
    "AqBAqCAqDAqGAqHArTAqIqKArHAqLAqMAqNArGArYAqOErOqPArHAqRAqSArHAqTArHAqVAqWAqYAqZAjSIGN CWIoSH",
    "YAjTONE CALYAt PLOPHUoPLOPHUjVOWEL EqEpOpUqEbELVIN SIGNcYdBOARDi AND MOUSEdCAP TENbHAROSHTHI",
    " DIGIT FOURrONErTHREEsWOlFRACTION ONE HALFlLETTER AsBAtHAsCAtHAsDAtDAuHAtHAsGAtHAsHAsJAsKAtH",
    "AtKAsLAsMAsNAtNAtYAsPAtHAsRAsSAtHAtSAsTAtHAtTAuHAuTAvHAsVAtHAsYAsZAlNUMBER ONE HUNDREDwTHOUS",
    "ANDsTENtWENTYlPUNCTUATION CIRCLEyRESCENT BARxDANDAyOTzaUBLE DANDAxLINESyOTUSxMANGALAMxSMALL ",
    "CIRCLElSIGN ANUSVARAqBAR ABOVEqCAUDAqDOT BELOWsUBLE RING BELOWqVISARGAlVIRAMAmOWEL LENGTH MA",
    "RKrSIGN EwIwOwUwVOCALIC RcITAN SMALL SCRIPT FILLERcMER CURRENCY SYMBOL RIELgDIGIT EIGHTmFIVE",
    "nOURmNINEmONEmSEVENnIXmTHREEnWOmZEROgINDEPENDENT VOWEL LYzbYyQAAzbIzbQzbUzaEzaIzbIzaOO TYPE ",
    "ONEziTWOzaUzbKzbUzcVyRYzbYgLETTER BAnCAoHApOoOnDAoOnHAnKAoHApOoOnLAoOnMOnNGOoNOoOoYOnPHApOoO",
    "nQAnROnSAoHAoSOnTAoHApOoOoTHAqOnVOnYOgSIGN AHSDAmTTHACANmVAKRAHASANYAlBANTOCnRIYOOSANnTHAMAS",
    "ATmEYYALlCAMNUC PII KUUHmOENGlKAKABATmHANmOOMUUTlLEK TOOlMUUSIKATOANlNIKAHITlPHNAEK MUANlREA",
    "HMUKmOBATlSAMYOK SANNYAlTOANDAKHIATmRIISAPlVIRIAMlYUUKALEAPINTUhYMBOL BEI KOETrROCoUON KOETs",
    "ROCnDAP KOETrROCq-BEI KOETvROCsUON KOETwROCrMUOY KOETwROCrPII KOETvROCsRAM KOETwROCnLEK ATTA",
    "K BEIyUONxMUOYxPIIyRAMzc-BEIzeUONzdMUOYzdPIIxSONnMUOY KOETsROCnPATHAMASAToII KOETrROCoRAM KO",
    "ETsROCr-BEI KOETwROCtUON KOETxROCsMUOY KOETxROCsPII KOETwROCnTUTEYASATgVOWEL INHERENT AAwQmS",
    "IGN AAsEsIsUrErIsEsIrOEsOrUsAsUrYsAsYcOJKI ABBREVIATION SIGNhDANDAiOUBLE DANDAoSECTION MARKh",
    "LETTER ApApIpUoBApBApHAoCApHAoDApDAqDAqHApHAoEoGApGApHAoHAoIoJApJAoKApHAoLApLAoMAoNApGApNApY",
    "AoOoPApHAoRAoSAoTApHApTAqHAoUoVAoYAhSECTION MARKiIGN ANUSVARAmNUKTAmSHADDAnUKUNmVIRAMAhVOWEL",
    " SIGN AAtItUsEsItIsOsUhWORD SEPARATORcUDAWADI DIGIT EIGHTqFIVErOURqNINEqONEqSEVENrIXqTHREErW",
    "OqZEROkLETTER AsAsIsUrBAsBAsHArCAsHArDAsDAtDAtHAsHArErGAsGAsHArHArIsIrJAsHAsJArKAsHArLArMArN",
    "AsGAsNAsYArOrPAsHArRAsRArSAsHArTAsHAsTAtHArUsUrVArYAkSIGN ANUSVARApNUKTApVIRAMAkVOWEL SIGN A",
    "AwIwUvEvIwIvOvUwUbIMONOcP SIGNcSSe MARKeING CAT FACE WITH CLOSED EYESiFACEm WITH CLOSED EYES",
    "sSMILING EYEScTEcWIFRUITbNEELING PERSONcOTbOALAcREAN STANDARD SYMBOLbRONOSaL B BAR SYMBOLbAB",
    " COATdELcCROSSE STICK AND BALLcDDERdY BEETLEcNGUAGE TAGcO CANCELLATION MARKeDIGIT EIGHTkFIVE",
    "lOURkNINEkONEkSEVENlIXkTHREElWOkZEROeELLIPSISeHO MOhNOeKO LAeLETTER BOlCOlDOlFO FAYpONoSUNGo",
    "TAMlHO SUNGoTAMlKHMU GOqNYOnO SUNGpTAMmOlLOn LINGpOOTlMOlNGOmOmYOlOlPALI BHAqCHAqDDAsHArHAqG",
    "HAqJHAqLLAqNNArYAqTTAsHAmHO SUNGpTAMmOlROlSANSKRIT SHAvSAmO SUNGoTAMlTHO SUNGpTAMmOlWOlYOeNI",
    "GGAHITAeSEMIVOWEL SIGN LOtNYOfIGN PALI VIRAMAeTONE MAI CATAWAnEKnTHOoIeVOWEL SIGN AqAqIqMqYp",
    "EqIpIqIpMAI KANuONpOpUqUpYqYcRGE BLUE CIRCLElDIAMONDlSQUAREhROWN CIRCLEmSQUAREgCIRCLEgDOWN T",
    "ACKgGREEN CIRCLEmSQUAREgLEFT TRIANGLE OPERATORgONE DOT OVER TWO DOTS PUNCTUATIONkRING OVER T",
    "WO RINGS PUNCTUATIONhRANGE CIRCLEnDIAMONDnSQUAREgPURPLE CIRCLEnSQUAREgRED CIRCLEkSQUAREgTRIP",
    "LE VERTICAL BAR OPERATORhWO DOTS OVER ONE DOT PUNCTUATIONkRINGS OVER ONE RING PUNCTUATIONgUP",
    " TACKgYELLOW CIRCLEnSQUAREfR THANl OR EQUAL TOdI SIGNcST QUARTER MOONr SYMBOLsWITH FACEcTIN ",
    "CAPITAL LETTER Aw WITH ACUTEzdBREVEzi AND ACUTEznDOT BELOWznGRAVEznHOOK ABOVEznTILDEzdCARONz",
    "eIRCUMFLEXzn AND ACUTEzsDOT BELOWzsGRAVEzsHOOK ABOVEzsTILDEzdDIAERESISzm AND MACRONzeOT ABOV",
    "Ezm AND MACRONzhBELOWzfUBLE GRAVEzdGRAVEzdHOOK ABOVEzdINVERTED BREVEzdMACRONzdOGONEKzdRING A",
    "BOVEzn AND ACUTEziBELOWzdSTROKEzdTILDEwAwEx WITH ACUTEzeMACRONwFRICAN DwLPHAwNGLICANA WwOwUw",
    "Vx WITH HORIZONTAL BARwYvBw WITH DOT ABOVEzhBELOWzdFLOURISHzdHOOKzdLINE BELOWzdSTROKEzdTOPBA",
    "RwETAwROKEN LvCw WITH ACUTEzdBARzdCARONzeEDILLAzk AND ACUTEzeIRCUMFLEXzdDOT ABOVEzdHOOKzdPAL",
    "ATAL HOOKzdSTROKEwHIwLOSED INSULAR GwONwUATRILLOzf WITH COMMAvDw WITH CARONzeEDILLAzeIRCUMFL",
    "EX BELOWzdDOT ABOVEzhBELOWzdHOOKzdLINE BELOWzdSHORT STROKE OVERLAYzeMALL LETTER Zzr WITH CAR",
    "ONzeTROKEzdTOPBARwZx WITH CARONvEw WITH ACUTEzdBREVEzdCARONzeEDILLAzk AND BREVEzeIRCUMFLEXzn",
    " AND ACUTEzsDOT BELOWzsGRAVEzsHOOK ABOVEzsTILDEzoBELOWzdDIAERESISzeOT ABOVEzhBELOWzfUBLE GRA",
    "VEzdGRAVEzdHOOK ABOVEzdINVERTED BREVEzdMACRONzj AND ACUTEzoGRAVEzdOGONEKzdSTROKEzdTILDEzi BE",
    "LOWwGYPTOLOGICAL AINzlLEFwNGwSHwTxHwZHy REVERSEDzaWITH CARONvFw WITH DOT ABOVEzdHOOKzdSTROKE",
    "vGw WITH ACUTEzdBREVEzdCARONzeEDILLAzeIRCUMFLEXzdDOT ABOVEzdHOOKzdMACRONzdOBLIQUE STROKEzdST",
    "ROKEwAMMAwHAwLOTTAL AzeIzeSTOPzeUvHw WITH BREVE BELOWzdCARONzeEDILLAzeIRCUMFLEXzdDESCENDERze",
    "IAERESISzeOT ABOVEzhBELOWzdHOOKzdSTROKEwALF HwENGwWAIRvIw WITH ACUTEzdBREVEzdCARONzeIRCUMFLE",
    "XzdDIAERESISzm AND ACUTEzeOT ABOVEzhBELOWzfUBLE GRAVEzdGRAVEzdHOOK ABOVEzdINVERTED BREVEzdMA",
    "CRONzdOGONEKzdSTROKEzdTILDEzi BELOWwNSULAR DzeFzeGzeRzeSzeTwOTAwSvJw WITH CIRCUMFLEXzeROSSED",
    "-TAILzdSTROKEvKw WITH ACUTEzdCARONzeEDILLAzdDESCENDERzeIAGONAL STROKEzeOT BELOWzdHOOKzdLINE ",
    "BELOWzdOBLIQUE STROKEzdSTROKEzj AND DIAGONAL STROKEvLw WITH ACUTEzdBARzeELTzdCARONzeEDILLAze",
    "IRCUMFLEX BELOWzdDOT BELOWzm AND MACRONzfUBLE BARzdHIGH STROKEzdLINE BELOWzdMIDDLE DOTzkTILD",
    "EzdSMALL LETTER JzeTROKEwJvMw WITH ACUTEzdDOT ABOVEzhBELOWzdHOOKwIDDLE SCOTS Szc-WELSH LLzjV",
    "vNw WITH ACUTEzdCARONzeEDILLAzeIRCUMFLEX BELOWzdDESCENDERzeOT ABOVEzhBELOWzdGRAVEzdLEFT HOOK",
    "zeINE BELOWzeONG RIGHT LEGzdOBLIQUE STROKEzdSMALL LETTER JzdTILDEwJvOw WITH ACUTEzdBREVEzdCA",
    "RONzeIRCUMFLEXzn AND ACUTEzsDOT BELOWzsGRAVEzsHOOK ABOVEzsTILDEzdDIAERESISzm AND MACRONzeOT ",
    "ABOVEzm AND MACRONzhBELOWzfUBLE ACUTEzkGRAVEzdGRAVEzdHOOK ABOVEzfRNzh AND ACUTEzmDOT BELOWzm",
    "GRAVEzmHOOK ABOVEzmTILDEzdINVERTED BREVEzdLONG STROKE OVERLAYzfOPzdMACRONzj AND ACUTEzoGRAVE",
    "zeIDDLE TILDEzdOGONEKzj AND MACRONzdSTROKEzj AND ACUTEzdTILDEzi AND ACUTEznDIAERESISznMACRON",
    "wIwLD POLISH OwMEGAwOwPEN EzbOwUvPw WITH ACUTEzdDOT ABOVEzdFLOURISHzdHOOKzdSQUIRREL TAILzeTR",
    "OKEzj THROUGH DESCENDERvQw WITH DIAGONAL STROKEzdSTROKE THROUGH DESCENDERvRw ROTUNDAxWITH AC",
    "UTEzdCARONzeEDILLAzdDOT ABOVEzhBELOWzm AND MACRONzfUBLE GRAVEzdINVERTED BREVEzdLINE BELOWzdO",
    "BLIQUE STROKEzdSTROKEzdTAILwEVERSED C WITH DOTzfEzfHALF HzfOPEN EwUM ROTUNDAvSw WITH ACUTEzi",
    " AND DOT ABOVEzdCARONzi AND DOT ABOVEzeEDILLAzeIRCUMFLEXzeOMMA BELOWzdDOT ABOVEzhBELOWzm AND",
    " DOT ABOVEzdHOOKzdOBLIQUE STROKEzdSHORT STROKE OVERLAYzeWASH TAILwALTILLOwCHWAxRIPT GwHARP S",
    "wIGMOID SwMALL CAPITAL IzcQ WITH HOOK TAILvTw WITH CARONzeEDILLAzeIRCUMFLEX BELOWzeOMMA BELO",
    "WzdDIAGONAL STROKEzeOT ABOVEzhBELOWzdHOOKzdLINE BELOWzdRETROFLEX HOOKzdSTROKEwHORNzb WITH ST",
    "ROKEzn THROUGH DESCENDERwONE FIVEzbSIXzbTWOwRESILLOwURNED AzeLPHAzdHzdINSULAR GzdKzdLzdMzdTz",
    "dVwZvUw BARxWITH ACUTEzdBREVEzdCARONzeIRCUMFLEXzn BELOWzdDIAERESISzm AND ACUTEzrCARONzrGRAVE",
    "zrMACRONznBELOWzeOT BELOWzfUBLE ACUTEzkGRAVEzdGRAVEzdHOOK ABOVEzfRNzh AND ACUTEzmDOT BELOWzm",
    "GRAVEzmHOOK ABOVEzmTILDEzdINVERTED BREVEzdMACRONzj AND DIAERESISzdOGONEKzdRING ABOVEzdSTROKE",
    "zdTILDEzi AND ACUTEzjBELOWwPSILONvVw WITH DIAGONAL STROKEzeOT BELOWzdHOOKzdTILDEwENDwISIGOTH",
    "IC ZwOLAPUK AEzeOEzeUEwYvWw WITH ACUTEzdCIRCUMFLEXzdDIAERESISzeOT ABOVEzhBELOWzdGRAVEzdHOOKw",
    "YNNvXw WITH DIAERESISzeOT ABOVEvYw WITH ACUTEzdCIRCUMFLEXzdDIAERESISzeOT ABOVEzhBELOWzdGRAVE",
    "zdHOOKzh ABOVEzdLOOPzdMACRONzdSTROKEzdTILDEwOGHvZw WITH ACUTEzdCARONzeIRCUMFLEXzdDESCENDERze",
    "OT ABOVEzhBELOWzdHOOKzdLINE BELOWzdPALATAL HOOKzdSTROKEzeWASH TAILpIGATURE IJxOEhROSSgEPIGRA",
    "PHIC LETTER ARCHAIC MyI LONGAzaNVERTED MyREVERSED FziPySIDEWAYS IgLETTER AINoLVEOLAR CLICKnB",
    "IDENTAL PERCUSSIVEpLABIAL CLICKwPERCUSSIVEnDENTAL CLICKnGLOTTAL STOPza WITH STROKEnINVERTED ",
    "GLOTTAL STOPzj WITH CURLzpSTROKEnLATERAL CLICKnPHARYNGEAL VOICED FRICATIVEnRETROFLEX CLICKzd",
    " WITH RETROFLEX HOOKpVERSED ESH LOOPwGLOTTAL STOP WITH STROKEnSINOLOGICAL DOToMALL CAPITAL A",
    "zdEzcBzdARRED BzcCzcDzcEzdTHzdZHzcFzcGzd WITH HOOKzcHzcIzdNVERTED RzcJzcKzcLzd WITH BELTzjST",
    "ROKEzcMzcNzcOzdEzdPEN OzdUzcPzcQzcRzd WITH RIGHT LEGzdEVERSED NzlRzdUMzcSzcTzdURNED EzjGzjKz",
    "jMzjRzcUzcVzcWzcYzcZoTRETCHED Cy WITH CURLnTWO WITH STROKEnVOICED LARYNGEAL SPIRANTnWYNNnYRg",
    "SMALL CAPITAL LETTER I WITH STROKEzcU WITH STROKEmLETTER Au REVERSED-SCHWAvWITH ACUTEzbBREVE",
    "zg AND ACUTEzlDOT BELOWzlGRAVEzlHOOK ABOVEzlTILDEzbCARONzcIRCUMFLEXzl AND ACUTEzqDOT BELOWzq",
    "GRAVEzqHOOK ABOVEzqTILDEzbDIAERESISzk AND MACRONzcOT ABOVEzk AND MACRONzfBELOWzdUBLE GRAVEzb",
    "GRAVEzbHOOK ABOVEzbINVERTED BREVEzbMACRONzbOGONEKzbRETROFLEX HOOKzcIGHT HALF RINGzdNG ABOVEz",
    "l AND ACUTEzgBELOWzbSTROKEzbTILDEuAuEv WITH ACUTEzcMACRONuLPHAy WITH RETROFLEX HOOKuNGLICANA",
    " WuOuUuVv WITH HORIZONTAL BARuYtBu WITH DOT ABOVEzfBELOWzbFLOURISHzbHOOKzbLINE BELOWzbMIDDLE",
    " TILDEzbPALATAL HOOKzbSTROKEzbTOPBARuARRED ALPHAzbEzbOvSELINE ESHuETAuLACKLETTER EzgOzh WITH",
    " STROKEuOTTOM HALF OuROKEN LtCu WITH ACUTEzbBARzbCARONzcEDILLAzi AND ACUTEzcIRCUMFLEXzcURLzb",
    "DOT ABOVEzbHOOKzbPALATAL HOOKzbRETROFLEX HOOKzbSTROKEuHIw WITH LOW LEFT SERIFzhRIGHT RINGuLO",
    "SED INSULAR GzbOMEGAzcPEN EzbREVERSED OPEN EuONuUATRILLOzd WITH COMMAtDu WITH CARONzcEDILLAz",
    "cIRCUMFLEX BELOWzcURLzbDOT ABOVEzfBELOWzbHOOKzf AND TAILzbLINE BELOWzbMIDDLE TILDEzbPALATAL ",
    "HOOKzbSHORT STROKE OVERLAYzcTROKEzbTAILzcOPBARuB DIGRAPHuELTAvZH DIGRAPHzg WITH PALATAL HOOK",
    "zmRETROFLEX HOOKuOTLESS IzcJzd WITH STROKEzp AND HOOKvUBLE Rzc WITH CROSSED-TAILzbTHORNzbWYN",
    "NuUMuZv DIGRAPHze WITH CURLzkRETROFLEX HOOKwWITH CARONtEu WITH ACUTEzbBREVEzbCARONzcEDILLAzi",
    " AND BREVEzcIRCUMFLEXzl AND ACUTEzqDOT BELOWzqGRAVEzqHOOK ABOVEzqTILDEzmBELOWzbDIAERESISzcOT",
    " ABOVEzfBELOWzdUBLE GRAVEzbFLOURISHzbGRAVEzbHOOK ABOVEzbINVERTED BREVEzbMACRONzh AND ACUTEzm",
    "GRAVEzbNOTCHzbOGONEKzbRETROFLEX HOOKzbSTROKEzbTILDEzg BELOWuGYPTOLOGICAL AINzjLEFuNGw WITH C",
    "ROSSED-TAILzdPALATAL HOOKuSHw WITH CURLzdDOUBLE BARzn AND CURLzdPALATAL HOOKzdRETROFLEX HOOK",
    "uTvHuZHw REVERSEDxWITH CARONzeURLzdPALATAL HOOKzdRETROFLEX HOOKzdTAILtFu WITH DOT ABOVEzbHOO",
    "KzbMIDDLE TILDEzbPALATAL HOOKzbSTROKEuENG DIGRAPHzg WITH TRILLtGu WITH ACUTEzbBREVEzbCARONzc",
    "EDILLAzcIRCUMFLEXzbDOT ABOVEzbHOOKzbMACRONzbOBLIQUE STROKEzbPALATAL HOOKzbSTROKEuAMMAuHAuLOT",
    "TAL AzcIzcSTOPzcUtHu WITH BREVE BELOWzbCARONzcEDILLAzcIRCUMFLEXzbDESCENDERzcIAERESISzcOT ABO",
    "VEzfBELOWzbHOOKzbLINE BELOWzbPALATAL HOOKzbSTROKEuALF HuENGx WITH HOOKuVtIu WITH ACUTEzbBREV",
    "EzbCARONzcIRCUMFLEXzbDIAERESISzk AND ACUTEzcOT BELOWzdUBLE GRAVEzbGRAVEzbHOOK ABOVEzbINVERTE",
    "D BREVEzbMACRONzbOGONEKzbRETROFLEX HOOKzbSTROKEzh AND RETROFLEX HOOKzbTILDEzg BELOWuNSULAR D",
    "zcFzcGzcRzcSzcTvVERTED ALPHAzdOEuOTAx WITH STROKEwIFIED EuStJu WITH CARONzcIRCUMFLEXzcROSSED",
    "-TAILzbSTROKEtKu WITH ACUTEzbCARONzcEDILLAzbDESCENDERzcIAGONAL STROKEzcOT BELOWzbHOOKzbLINE ",
    "BELOWzbOBLIQUE STROKEzbPALATAL HOOKzbSTROKEzh AND DIAGONAL STROKEuRAtLu WITH ACUTEzbBARzcELT",
    "zf AND PALATAL HOOKzbCARONzcEDILLAzcIRCUMFLEX BELOWzcURLzbDOT BELOWzk AND MACRONzdUBLE BARzi",
    "MIDDLE TILDEzbFISHHOOKzbHIGH STROKEzbINVERTED LAZY SzbLINE BELOWzbMIDDLE DOTziRINGziTILDEzbP",
    "ALATAL HOOKzbRETROFLEX HOOKzp AND BELTzbSTROKEuAMBDA WITH STROKEuENIS FvZHx WITH RETROFLEX H",
    "OOKuJuONG Sza WITH DIAGONAL STROKEzhOT ABOVEzgHIGH STROKEuS DIGRAPHuUMuZ DIGRAPHtMu WITH ACU",
    "TEzbCROSSED-TAILzbDOT ABOVEzfBELOWzbHOOKzbMIDDLE TILDEzbPALATAL HOOKuIDDLE SCOTS Sza-WELSH L",
    "LzhVuUMtNu PRECEDED BY APOSTROPHEvWITH ACUTEzbCARONzcEDILLAzcIRCUMFLEX BELOWzcROSSED-TAILzcU",
    "RLzbDESCENDERzcOT ABOVEzfBELOWzbGRAVEzbLEFT HOOKzcINE BELOWzcONG RIGHT LEGzbMIDDLE TILDEzbOB",
    "LIQUE STROKEzbPALATAL HOOKzbRETROFLEX HOOKzbTILDEuJuUMtOu WITH ACUTEzbBREVEzbCARONzcIRCUMFLE",
    "Xzl AND ACUTEzqDOT BELOWzqGRAVEzqHOOK ABOVEzqTILDEzbDIAERESISzk AND MACRONzcOT ABOVEzk AND M",
    "ACRONzfBELOWzdUBLE ACUTEziGRAVEzbGRAVEzbHOOK ABOVEzdRNzf AND ACUTEzkDOT BELOWzkGRAVEzkHOOK A",
    "BOVEzkTILDEzbINVERTED BREVEzbLONG STROKE OVERLAYzdOPzdW RING INSIDEzbMACRONzh AND ACUTEzmGRA",
    "VEzbOGONEKzh AND MACRONzbRETROFLEX HOOKzbSTROKEzh AND ACUTEzbTILDEzg AND ACUTEzlDIAERESISzlM",
    "ACRONuIuLD POLISH OuMEGAuOuPEN Eza WITH RETROFLEX HOOKyOza WITH RETROFLEX HOOKzgSTROKEzaEuUt",
    "Pu WITH ACUTEzbDOT ABOVEzbFLOURISHzbHOOKzbMIDDLE TILDEzbPALATAL HOOKzbSQUIRREL TAILzcTROKEzh",
    " THROUGH DESCENDERuHItQu WITH DIAGONAL STROKEzbHOOKzf TAILzbSTROKE THROUGH DESCENDERuP DIGRA",
    "PHtRu ROTUNDAvWITH ACUTEzbCARONzcEDILLAzcROSSED-TAILzbDOT ABOVEzfBELOWzk AND MACRONzdUBLE GR",
    "AVEzbFISHHOOKzj AND MIDDLE TILDEzoPALATAL HOOKzbINVERTED BREVEzbLINE BELOWzcONG LEGzbMIDDLE ",
    "TILDEzbOBLIQUE STROKEzbPALATAL HOOKzbSTROKEzbTAILzaOUT HANDLEuAMS HORNuEVERSED Cze WITH DOTz",
    "dEzeNGzdHALF HzdKzdOPEN Ezj WITH HOOKzpRETROFLEX HOOKzdR WITH FISHHOOKzdSCRIPT GuUMw ROTUNDA",
    "tSu WITH ACUTEzg AND DOT ABOVEzbCARONzg AND DOT ABOVEzcEDILLAzcIRCUMFLEXzcOMMA BELOWzcURLzbD",
    "OT ABOVEzfBELOWzk AND DOT ABOVEzbHOOKzbMIDDLE TILDEzbOBLIQUE STROKEzbPALATAL HOOKzbSHORT STR",
    "OKE OVERLAYzcWASH TAILuAKHA YATvLTILLOuCHWAy WITH HOOKzfRETROFLEX HOOKvRIPT Gzc WITH CROSSED",
    "-TAILzbRzc WITH RINGuHARP SuIDEWAYS DIAERESIZED UzdOze WITH STROKEzePEN OzdTURNED MzdUvGMOID",
    " SuQUAT REVERSED ESHuTIRRUP RtTu WITH CARONzcEDILLAzcIRCUMFLEX BELOWzcOMMA BELOWzcURLzbDIAER",
    "ESISzeGONAL STROKEzcOT ABOVEzfBELOWzbHOOKzf AND RETROFLEX HOOKzbLINE BELOWzbMIDDLE TILDEzbPA",
    "LATAL HOOKzbRETROFLEX HOOKzbSTROKEuAILLESS PHIuC DIGRAPH WITH CURLuESH DIGRAPHzg WITH PALATA",
    "L HOOKzmRETROFLEX HOOKuH WITH STRIKETHROUGHvORNy WITH STROKEzl THROUGH DESCENDERuONE FIVEySI",
    "XyTWOvP HALF OuRESILLOuS DIGRAPHze WITH RETROFLEX HOOKuUMvRNED AzcEzcLPHAzbDELTAzbEzbGzbHzc ",
    "WITH FISHHOOKzq AND TAILzbIzcNSULAR GzbKzbLzbMzc WITH LONG LEGzbO OPEN-Ozj WITH STROKEzcEzd ",
    "WITH HORIZONTAL STROKEzjSTROKEzcPEN EzbRzc WITH HOOKziLONG LEGzq AND RETROFLEX HOOKziMIDDLE ",
    "TILDEziPALATAL HOOKziTAILzbTzc WITH CURLzbUIzbVzbWzbYzc WITH BELTuZtUu BARy WITH SHORT RIGHT",
    " LEGvWITH ACUTEzbBREVEzbCARONzcIRCUMFLEXzl BELOWzbDIAERESISzk AND ACUTEzpCARONzpGRAVEzpMACRO",
    "NzlBELOWzcOT BELOWzdUBLE ACUTEziGRAVEzbGRAVEzbHOOK ABOVEzdRNzf AND ACUTEzkDOT BELOWzkGRAVEzk",
    "HOOK ABOVEzkTILDEzbINVERTED BREVEzbLEFT HOOKzbMACRONzh AND DIAERESISzbOGONEKzbRETROFLEX HOOK",
    "zcING ABOVEzbSHORT RIGHT LEGzcTROKEzbTILDEzg AND ACUTEzhBELOWuEuIuMuOuPSILONzb WITH STROKEtV",
    "u WITH CURLzbDIAGONAL STROKEzcOT BELOWzbHOOKzbPALATAL HOOKzbRIGHT HOOKzbTILDEuENDuISIGOTHIC ",
    "ZuOLAPUK AEzcOEzcUEuYtWu WITH ACUTEzbCIRCUMFLEXzbDIAERESISzcOT ABOVEzfBELOWzbGRAVEzbHOOKzbRI",
    "NG ABOVEtXu WITH DIAERESISzcOT ABOVEzbLONG LEFT LEGzo AND LOW RIGHT RINGzpWITH SERIFzdW RIGH",
    "T RINGzbPALATAL HOOKtYu WITH ACUTEzbCIRCUMFLEXzbDIAERESISzcOT ABOVEzfBELOWzbGRAVEzbHOOKzf AB",
    "OVEzbLOOPzbMACRONzbRING ABOVEzbSHORT RIGHT LEGzcTROKEzbTILDEuOGHtZu WITH ACUTEzbCARONzcIRCUM",
    "FLEXzcURLzbDESCENDERzcOT ABOVEzfBELOWzbHOOKzbLINE BELOWzbMIDDLE TILDEzbPALATAL HOOKzbRETROFL",
    "EX HOOKzbSTROKEzcWASH TAILnIGATURE FFxIxLwIwLvIJvLONG S TvOEvSThUBSCRIPT SMALL LETTER AzeEze",
    "HzeIzeJzeKzeLzeMzeNzeOzePzeRzeSzfCHWAzeTzeUzeVzeXbEAF FLUTTERING IN WINDeY GREENcDGERcFT AND",
    " LOWER AND RIGHT TRIANGULAR THREE QUARTERS BLOCKpONE EIGHTH BLOCKjRIGHT DOUBLE TURNSTILEpTAC",
    "KqRIANGULAR HALF BLOCKjUPPER AND RIGHT TRIANGULAR THREE QUARTERS BLOCKpONE EIGHTH BLOCKhGER ",
    "BUBBLEiLE BRACKETs WITH DOTgRC LESS-THAN BRACKEThROW WITH CIRCLED PLUSqSMALL CIRCLEfBARB DOW",
    "N RIGHT BARB DOWN HARPOONzbUP HARPOONkUP RIGHT BARB DOWN HARPOONyUP HARPOONgLACK LENTICULAR ",
    "BRACKETlTORTOISE SHELL BRACKETfCEILINGgLOSED ENTRYgORNER BRACKETgURLY BRACKETs LOWER HOOKtMI",
    "DDLE PIECEtUPPER HOOKfDOTTED SUBSTITUTION BRACKEThUBLE ANGLE BRACKETmPARENTHESISmQUOTATION M",
    "ARKmWIGGLY FENCEfFISH TAILhVE EIGHTHS BLOCKgLOORfHALF BLACK CIRCLEqSTARmOCKkCIRCLEq WITH DOT",
    "wFOUR DOTSwTHREE DOTSxWO DOTSkFOLDERkINVERSE MEDIUM SHADE AND RIGHT HALF BLOCKkMEDIUM SHADEk",
    "RUNNING MANhND TELEPHONE RECEIVERfLOW PARAPHRASE BRACKETgUGGAGEfMULTIMAPfNORMAL FACTOR SEMID",
    "IRECT PRODUCTfONE EIGHTH BLOCKjQUARTER BLOCKgUTER JOINfPARENTHESISq EXTENSIONrLOWER HOOKrUPP",
    "ER HOOKfRAISED OMISSION BRACKETgIGHT ARROWq THROUGH SMALL CIRCLErWITH DOUBLE VERTICAL STROKE",
    "wSTROKEwVERTICAL STROKElBLACK ARROWlDOUBLE ARROWx WITH STROKEzeVERTICAL STROKElOPEN-HEADED A",
    "RROWlSANS-SERIF ARROWlTRIANGLE-HEADED ARROWlWAVE ARROWmHITE ARROWfS-SHAPED BAG DELIMITERgEMI",
    "DIRECT PRODUCThVEN EIGHTHS BLOCKgIDEWAYS U BRACKEThNGLE QUOTATION MARKgPEECH BUBBLEgQUARE BR",
    "ACKETt EXTENSIONuLOWER CORNERuUPPER CORNERuWITH DOUBLE STROKEzaQUILLzaSTROKEzaTICK IN BOTTOM",
    " CORNERziTOP CORNERzaUNDERBARgUBSTITUTION BRACKETfTACKgHIRD WHITE RIGHT POINTING INDEXhOUGHT",
    " BUBBLEhREE EIGHTHS BLOCKlQUARTERS BLOCKgORTOISE SHELL BRACKETgRANSPOSITION BRACKEThIANGLE B",
    "ESIDE VERTICAL BARlULAR ONE QUARTER BLOCKfVERTICAL BAR WITH QUILLpOX LINEfWHITE CORNER BRACK",
    "ETmURLY BRACKETlLENTICULAR BRACKETlPARENTHESISlSQUARE BRACKETlTORTOISE SHELL BRACKETgIGGLY F",
    "ENCEgRITING HANDe-FACING ARMENIAN ETERNITY SIGNmFISTmSVASTI SIGNx WITH DOTSfHANDED INTERLACE",
    "D PENTAGRAMfPOINTING ANGLE BRACKEToCURVED ANGLE BRACKEToDOUBLE ANGLE QUOTATION MARKoMAGNIFYI",
    "NG GLASSfSHADED WHITE RIGHTWARDS ARROWgIDE ARC ANTICLOCKWISE ARROWfTO-RIGHT EMBEDDINGoISOLAT",
    "EoMARKoOVERRIDEeWARDS ARROWp ABOVE ALMOST EQUAL TOwREVERSE ALMOST EQUAL TOzfTILDE OPERATORwS",
    "HORT RIGHTWARDS ARROWwTILDE OPERATORrND UPPER AND LOWER ONE EIGHTH BLOCKqFROM BARy TO BLACK ",
    "DIAMONDqOVER RIGHTWARDS ARROWqTHROUGH LESS-THANySUBSETyXrO BARw OVER RIGHTWARDS ARROW TO BAR",
    "uLACK DIAMONDqWITH DOTTED STEMxUBLE VERTICAL STROKEvEQUILATERAL ARROWHEADvHOOKvLARGE TRIANGL",
    "E ARROWHEADwOOPvMEDIUM TRIANGLE ARROWHEADvNOTCHED TAILvPLUS BELOWvSMALL EQUILATERAL ARROWHEA",
    "DzcTRIANGLE ARROWHEADwTROKEvTAILza WITH DOUBLE VERTICAL STROKEzgVERTICAL STROKEwIP DOWNWARDS",
    "zaUPWARDSvVERTICAL STROKEp-TAILkBACK-TILTED SHADOWED WHITE ARROWlLACK ARROWqCIRCLED WHITE AR",
    "ROWlOTTOM-SHADED WHITE ARROWkCOMPRESSED ARROWkDASHED ARROWlOUBLE ARROWw FROM BARxWITH STROKE",
    "zdVERTICAL STROKEw-TAILrDASH ARROWkFINGER-POST ARROWlRONT-TILTED SHADOWED WHITE ARROWkHANDmR",
    "POON OVER RIGHTWARDS HARPOONsWITH BARB DOWN ABOVE RIGHTWARDS HARPOON WITH BARB DOWNziBELOW L",
    "ONG DASHziFROM BARziTO BARzhWARDSzdUP ABOVE LEFTWARDS HARPOON WITH BARB DOWNznONG DASHzmRIGH",
    "TWARDS HARPOON WITH BARB UPzgFROM BARzgTO BARzfWARDSlEAVY ARROWqCOMPRESSED ARROWkLEFT-SHADED",
    " WHITE ARROWkOPEN-HEADED ARROWkPAIRED ARROWSkQUADRUPLE ARROWkRIGHT-SHADED WHITE ARROWlOCKETk",
    "SANS-SERIF ARROWlQUARED ARROWnIGGLE ARROWkTOP SHADED WHITE ARROWlRIANGLE ARROWHEADs-HEADED A",
    "RROWzg OVER RIGHTWARDS TRIANGLE-HEADED ARROWzhTO BARzhWITH BOLD SHAFTzmDOUBLE HORIZONTAL STR",
    "OKEztVERTICAL STROKEzmHEAVY SHAFTzmLONG TIP DOWNWARDSzvUPWARDSzmMEDIUM SHAFTzmNARROW SHAFTzm",
    "VERY HEAVY SHAFTzbDASHED ARROWzbPAIRED ARROWSnPLE ARROWrDASH ARROWlWO HEADED ARROWn-HEADED A",
    "RROW FROM BARzcWITH DOUBLE VERTICAL STROKEzhTAILzl WITH DOUBLE VERTICAL STROKEzrVERTICAL STR",
    "OKEziRIANGLE ARROWHEADSzhVERTICAL STROKEvTRIPLE DASH ARROWkWAVE ARROWlHITE ARROWv WITHIN TRI",
    "ANGLE ARROWHEADcGcMONcOdPARDcPCHA CONSONANT SIGN KxANGwLwMwNxYIN-DOwPwRwThDIGIT EIGHTnFIVEoO",
    "URnNINEnONEnSEVENoIXnTHREEoWOnZEROhLETTER AoBApLAoCApHAoDApDApZAoFApLAoGApLAoHApLAoJAoKApHAp",
    "LAoLAoMApLAoNApGApYAoPApHApLAoRAoSApHAoTApHApSAqHApTAqHAoVAoWAoYAhPUNCTUATION CER-WAtNYET TH",
    "YOOM TA-ROLtTA-ROLuSHOOKza CER-WAhSIGN NUKTAmRANiUBJOINED LETTER RAyYAhVOWEL SIGN AAsEsIsOtO",
    "sUtUcSS-THAN ABOVE DOUBLE-LINE EQUAL ABOVE GREATER-THANqGREATER-THAN ABOVE DOUBLE-LINE EQUAL",
    "qLEFTWARDS ARROWqSIMILAR ABOVE GREATER-THANyOR EQUALrLANTED EQUAL ABOVE GREATER-THAN ABOVE S",
    "LANTED EQUALlND NOT APPROXIMATEoSINGLE-LINE NOT EQUAL TOkBUT NOT EQUAL TOvIVALENT TOkCLOSED ",
    "BY CURVEza ABOVE SLANTED EQUALkEQUAL TO OR GREATER-THANkOR APPROXIMATEnEQUAL TOqIVALENT TOnG",
    "REATER-THANnSLANTED EQUAL TOze WITH DOT ABOVEzt RIGHTzoINSIDElVER EQUAL TOkSIGNkWITH CIRCLE ",
    "INSIDEpDOTpQUESTION MARK ABOVEcVEL SLIDERbFbIBRAcGATURE OPEN ET ORNAMENTdHT CHECK MARKgEIGHT",
    " SPOKED ASTERISKgFIVE POINTED BLACK STARlSPOKED ASTERISKhOUR POINTED BLACK CUSPzaSTARgGREEK ",
    "CROSSgLEFT TORTOISE SHELL BRACKET ORNAMENTgRAILhIGHT TORTOISE SHELL BRACKET ORNAMENTgSALTIRE",
    "hHADEhIX SPOKED ASTERISKgTHREE POINTED BLACK STARhWELVE POINTED BLACK STARgVERTICAL BARgWHIT",
    "E SQUAREfNINGj MOODo BUBBLEcMBU DIGIT EIGHTmFIVEnOURmNINEmONEmSEVENnIXmTHREEnWOmZEROgEXCLAMA",
    "TION MARKgLETTER BAoHAnCAoHAnDAoHAnGAoHAoYANnHAnJAoHAnKAoHAnLAnMAnNAoGAnPAoHAnRAnSAoHAoSAnTA",
    "oHAoRAnWAnYApNgQUESTION MARKgSIGN KEMPHRENGlLOOlMUKPHRENGlSA-IhMALL LETTER ANUSVARAtKAtLAtMA",
    "tNAuGAtPAtRAtTAhUBJOINED LETTER RAxWAxYAgVOWEL SIGN AsIsUrEsErIrOsOrUl-CARRIER LETTERdITED L",
    "IABILITY SIGNcNE FEEDfINTEGRATION NOT INCLUDING THE POLErWITH RECTANGULAR PATH AROUND POLEwS",
    "EMICIRCULAR PATH AROUND POLEfSEPARATORfTABULATIONp SETeAR A SIGN A028Bp100-102q20Bq31Cp301r2",
    "r3r4r5r6r7r8r9AsBsCq10r1r2r3AsBsCr4r5r6r7r8r9q20r1r2r3r4r5r6r7r8r9q30r1r2r3r4r5r6r7r8r9q40r1",
    "r2r3r4r5r6r7r8r9q50r1r2r3r4r5r6r7r8r9q60r1r2r3r4r5r6r7r8r9q70r1p400-VASr1-VASr2-VASr3-VASr4-",
    "VASr5-VASr6-VASr7-VASr8-VASr9-VASq10-VASr1-VASr2-VASr3-VASr4-VASr5-VASr6-VASr7-VASr8-VASp501",
    "r2r3r4r5r6r8r9q10r1r2r3r5r6q20r1r3r4r5r6r7r8r9q30r1r2r4r5r6r7r8r9q40r1r2r5r7r8r9q50r1r2r3r4r",
    "5r6r7r9q63r4r5r6r8r9q70r1r2r3r4r5r6r7r8r9q80r1r2r3r4r5r6r7r8r9q91r2r4r5r6r8p600r1r2r3r4r6r8r",
    "9q10r1r2r3r4r5r6r7r8r9q20r1r2r3r4r6r7r8r9q34r7r8q40r2r3r4r5r6r8r9q51r2r3r4r5r6r7r8r9q60r1r2r",
    "3r4p701 Ar2 Br3 Dr4 Er5 Fr6 Hr7 Jr8 Kr9 Ls-2 L2t3 L3t4 L4t6 L6q10 Wr1 Xr2 Yr3 OMEGAr4 ABBr5 ",
    "BBr7 DDq26 EYYYq32 JEp800r1r2r3r4r5r6r7pB001s2s3s4s5s6s7s8s9r10s1s3s6s7r20s1tFtMs2tFtMs3tMs4",
    "s6s7s8s9r30s1s4s7s8s9r40s1s4s5s6s7s8s9r50s1s3s4s5s6s7s8s9r60s1s5s6s7s9r70s3s4s6s7s8s9r80s1s2",
    "s5s6s7q118r20s2s3r31AtBr64r71r80s8r91hB IDEOGRAM B100 MANv2 WOMANv4 DEERv5 EQUIDwF MAREwM ST",
    "ALLIONv6F EWEwM RAMv7F SHE-GOATwM HE-GOATv8F SOWwM BOARv9F COWwM BULLu20 WHEATv1 BARLEYv2 OL",
    "IVEv3 SPICEv5 CYPERUSu30 OILv1 WINEv2u40 BRONZEv1 GOLDv2v5 WOOLv6u50v1 HORNv2v3v4v7v8v9 CLOT",
    "Hu60v1v2 GARMENTv3 ARMOURv4v5v6v7v8v9u70v1v2v3 MONTHv4v6 TREEv7v8v9u80v1v2v3v4v5v9u90v1 HELM",
    "ETt220 FOOTSTOOLv5 BATHTUBu30 SPEARv1 ARROWv2v3 SWORDv4v6u40 WHEELED CHARIOTv1 CHARIOTv2 CHA",
    "RIOT FRAMEv3 WHEELv5v6v8v9u51v2v3v4 DARTv5v6v7v8v9sVESSEL B155zb200zd1zd2zd3zd4zd5zd6zd7zd8z",
    "d9zc10zd1zd2zd3zd4zd5zd6zd7zd8zd9zc21zd2zd6zd7zd8zd9zc50zb305jMONOGRAM B127 KAPOv8 KANAKOu33",
    " AREPAv5 MERIu56 TURO2t247 DIPTEjSYLLABLE B001 DAv2 ROv3 PAv4 TEv5 TOv6 NAv7 DIv8 Av9 SEu10 ",
    "Uv1 POv2 SOv3 MEv4 DOv5 MOv6 QAv7 ZAu20 ZOv1 QIv3 MUv4 NEv5 A2v6 RUv7 REv8 Iv9 PU2u30 NIv1 S",
    "Av2 QOv3 RA3v6 JOv7 TIv8 Ev9 PIu40 WIv1 SIv2 WOv3 A3v4 KEv5 DEv6 JEv8 NWAu50 PUv1 DUv2 NOv3 ",
    "RIv4 WAv5 NUv7 JAv8 SUv9 TAu60 RAv1 Ov2 PTEv5 JUv6 TA2v7 KIv8 RO2v9 TUu70 KOv1 DWEv2 PEv3 MI",
    "v4 ZEv5 WEv6 RA2v7 KAv8 QEu80 MAv1 KUv5 AUv7 TWEu90 DWOv1 TWOlMBOL B018t9s22s34s47t9s56s63t4",
    "s79s82t3t6t9dK SYMBOLeED PAPERCLIPScON FACEcPSeTICKcRA SIGNcSU LETTER AnEmBAmCAnHAmDAnZAmEnU",
    "mFAmGAnHAmHAnHAmImJAmKAnHAmLAmMAmNAnGAmOnEmPAnHAmSAnHAmTAnHAnONE MYA BOvCYAvJEUvNAvTIrNA POn",
    "SAoHAmUnEnHmWAmXAmYAnHAmZAnHAfPUNCTUATION COMMArFULL STOPcVRE TOURNOIS SIGNcZARDbLAMAbOBSTER",
    "cCKe WITH INK PENeING-SHIFT ONEoZEROcGICAL ANDl WITH DOT ABOVEtUBLE OVERBARyUNDERBARrHORIZON",
    "TAL DASHrMIDDLE STEMrUNDERBARiORk OVERLAPPING LOGICAL ANDlWITH DOT ABOVEsUBLE OVERBARxUNDERB",
    "ARqHORIZONTAL DASHqMIDDLE STEMcLLIPOPcNG DASH FROM LEFT MEMBER OF DOUBLE VERTICALgIVISIONgRU",
    "MfLEFT RIGHT ARROWqDOUBLE ARROWkTACKjWARDS ARROWu FROM BARpDOUBLE ARROWzc FROM BARpSQUIGGLE ",
    "ARROWfRIGHT TACKkWARDS ARROWv FROM BARqDOUBLE ARROWzd FROM BARqSQUIGGLE ARROWcTION BOTTLEdUS",
    "cUDLY CRYING FACEcVE HOTELfLETTERcW ASTERISKeBATTERYfRIGHTNESS SYMBOLeDOUBLE PRIME QUOTATION",
    " MARKeKAVYKAk WITH DOTeLINEdER BLADE SCISSORSgFIVE EIGHTHS BLOCKgHALF BLOCKlCIRCLElINVERSE W",
    "HITE CIRCLElMEDIUM SHADEgLEFT BALLPOINT PENmLOCK DIAGONAL LOWER MIDDLE LEFT TO LOWER CENTREz",
    "zdRIGHTzbUPPER CENTRE TO LOWER MIDDLE RIGHTzxRIGHTzrUPPER MIDDLE RIGHTzhLEFT TO LOWER CENTRE",
    "zvMIDDLE RIGHTzpUPPER MIDDLE RIGHTzhMIDDLE LEFT TO LOWER CENTREzzdMIDDLE RIGHTzzdRIGHTlCRAYO",
    "NlFOUNTAIN PENlPAINTBRUSHmENCILlQUADRANT CIRCULAR ARClSEMICIRCULAR ANTICLOCKWISE ARROWlTRIAN",
    "GLErULAR MEDIUM SHADEgONE EIGHTH BLOCKkQUARTER BLOCKgRIGHT BLOCK DIAGONAL LOWER CENTRE TO LO",
    "WER MIDDLE RIGHTzsUPPER MIDDLE RIGHTzyRIGHTziLEFT TO LOWER MIDDLE RIGHTzqUPPER CENTREzwMIDDL",
    "E RIGHTziMIDDLE LEFT TO UPPER CENTREzzeMIDDLE RIGHTzzeRIGHTzcUPPER MIDDLE LEFT TO UPPER CENT",
    "REzzeRIGHTmCORNER WITH DOTmDROP-SHADOWED WHITE SQUAREmPENCILmQUADRANT CIRCULAR ARCmSEMICIRCU",
    "LAR CLOCKWISE ARROWnHADOWED WHITE CIRCLEzcSQUAREmTRIANGLEsULAR MEDIUM SHADEgSEVEN EIGHTHS BL",
    "OCKgTHREE EIGHTHS BLOCKmQUARTERS BLOCKhRIANGULAR ONE QUARTER BLOCKcZENGEh DIVIDED BY HORIZON",
    "TAL RULEbREcIcMcObUGGAGEcNGSbYCIAN LETTER ApNoBpHoDoEpNoGoHoIoJoKpKoLoMpMoNpNoPoQoRoSoTpHpTo",
    "UoWoXoZcDIAN LETTER ApNoBoCoDoEpNoFoGoIoKoLpYoMoNpNoOoQoRoSpSoTpToUoVoYhTRIANGULAR MARKcING ",
    "FACEaMACRONcGEdIC WANDdNETcHAJANI ABBREVIATION SIGNjLETTER AqBArHAqCArHAqDArDAsHArHAqEqGArHA",
    "qHAqIqJArHAqKArHAqLAqMAqNArNArYAqOqPArHAqRArRAqSAqTArHArTAsHAqUqVAkIGATURE SHRIjSECTION MARK",
    "kIGN NUKTAdJONG TILE AUTUMNnBACKpMBOOnCHRYSANTHEMUMnEAST WINDoIGHT OF BAMBOOSwCHARACTERSxIRC",
    "LESnFIVE OF BAMBOOSvCHARACTERSwIRCLESoOUR OF BAMBOOSvCHARACTERSwIRCLESnGREEN DRAGONnJOKERnNI",
    "NE OF BAMBOOSvCHARACTERSwIRCLESoORTH WINDnONE OF BAMBOOSuCHARACTERSvIRCLESoRCHIDnPLUMnRED DR",
    "AGONnSEVEN OF BAMBOOSwCHARACTERSxIRCLESoIX OF BAMBOOSuCHARACTERSvIRCLESoOUTH WINDoPRINGoUMME",
    "RnTHREE OF BAMBOOSwCHARACTERSxIRCLESoWO OF BAMBOOSuCHARACTERSvIRCLESnWEST WINDoHITE DRAGONoI",
    "NTERcKASAR ANGKAiEND OF SECTIONiLETTER ApBApCApDApGApJApKApLApMApNAqGAqYApPApRApSApTApVApYAi",
    "PASSIMBANGiVOWEL SIGN EtItOtUcLAYALAM AU LENGTH MARKkDATE MARKlIGIT EIGHTqFIVErOURqNINEqONEq",
    "SEVENrIXqTHREErWOqZEROkFRACTION ONE EIGHTHxFIFTHyORTIETHxHALFxONE-HUNDRED-AND-SIXTIETHxQUART",
    "ERxSIXTEENTHxTENTHyWENTIETHtTHREE EIGHTIETHSzaQUARTERSzaSIXTEENTHSzaTWENTIETHSkLETTER AsAsIs",
    "RCHAIC IIsUrBAsHArCAsHAtILLU KyLzaLzbLyMyNzaNyRRyYrDAsDAtHAsHAsOT REPHrEsErGAsHArHArIsIrJAsH",
    "ArKAsHArLAsLAtLArMArNAsGAsNAtNAsYArOsOrPAsHArRAsRArSAsHAsSArTAsHAsTAtHAtTArUsUrVAsEDIC ANUSV",
    "ARAsOCALIC LzbLzaRzbRrYAkNUMBER ONE HUNDREDvTHOUSANDrTENkSIGN ANUSVARAqVAGRAHApCANDRABINDUqI",
    "RCULAR VIRAMAqOMBINING ANUSVARA ABOVEpPARApVERTICAL BAR VIRAMAqIRAMArSARGAkVOWEL SIGN AAwIwU",
    "vEwEvIwIvOwOvUwUvVOCALIC LzfLzeRzfRdE AND FEMALE SIGNfSIGNfWITH STROKE AND MALE AND FEMALE S",
    "IGNrSIGNdTESE CROSScMMOTHcNd AND WOMAN HOLDING HANDSeDANCINGeIN BUSINESS SUIT LEVITATINGhTUX",
    "EDOeWITH GUA PI MAOjTURBANdAT SIGNdDAIC AFFRICATION MARKiGEMINATION MARKiLETTER ABqDqGqHqINq",
    "KrSAqLqMqNqPqQqRqSrHrZqTrTqZpDUSHENNApHALQApINqTpKADpUSHENNAiPUNCTUATIONiVOCALIZATION MARKdG",
    "OdICHAEAN ABBREVIATION MARK ABOVEzeBELOWlLETTER AAYINtLEPHtYINsBETHtHETHsDALETHtHAMEDHsFEsGH",
    "IMELtIMELsHEuTHsJAYINtHAYINsKAPHtHAPHsLAMEDHsMEMsNUNsPEsQHOPHtOPHsRESHsSADHEuMEKHtHINtSHINsT",
    "AWtETHtHAMEDHsWAWsXAPHtOPHsYODHsZAYINtHAYINlNUMBER FIVEsONEv HUNDREDsTENtWENTYlPUNCTUATION D",
    "OTzb WITHIN DOTzaUBLE DOT WITHIN DOTxFLEURONxLINE FILLERxSTARxTWO DOTSlSIGN UDdS SHOEdTELPIE",
    "CE CLOCKdUAL WHEELCHAIRcP SYMBOL FOR LIGHTHOUSEdLE LEAFcRCHEN HEAD MARKiLETTER -ApApBApCAqHA",
    "pDAqZApGApHApJApKAqHApLApMApNAqGAqYApPAqHApRApSAqHApTAqHAqSArHApWApYApZAqHAiMARK SHADiSIGN A",
    "NUSVARAnCANDRABINDUjUBJOINED LETTER AzaBAzaCAzbHAzaDAzbZAzaGAzaHAzaJAzaKAzbHAzaLAzaMAzaNAzbG",
    "AzbYAzaPAzbHAzaRAzaSAzbHAzaTAzbHAzbSAzcHAzaWAzaYAzaZAzbHAiVOWEL SIGN AAtEtItOtUdRIAGE SYMBOL",
    "dTIAL ARTS UNIFORMcSARAM GONDI DIGIT EIGHTuFIVEvOURuNINEuONEuSEVENvIXuTHREEvWOuZEROoLETTER A",
    "wAwIwUvBAwHAvCAwHAvDAwDAxHAwHAvEvGAwHAvHAvIwIvJAwHAwNYAvKAwHAwSSAvLAwLAvMAvNAwGAwNAwYAvOvPAw",
    "HAvRAvSAwHAwSAvTAwHAwRAwTAxHAvUwUvVAvYAoRA-KARApEPHAoSIGN ANUSVARAtCANDRAtHALANTAtNUKTAtVISA",
    "RGAoVIRAMApOWEL SIGN AAzbIzbUzaEzaIzbIzaOzaUzbUzaVOCALIC RdCULINE ORDINAL INDICATORdK WORK S",
    "YMBOLdU MARKcTE DRINKdHEMATICAL BOLD CAPITAL AzcLPHAzbBzcETAzbCzcHIzbDzcELTAzcIGAMMAzbEzcPSI",
    "LONzcTAzbFzbGzcAMMAzbHzbIzcOTAzbJzbKzcAPPAzbLzcAMDAzbMzcUzbNzcUzbOzcMEGAzdICRONzbPzcHIzcIzcS",
    "IzbQzbRzcHOzbSzcIGMAzbTzcAUzcHETAzg SYMBOLzbUzcPSILONzbVzbWzbXzcIzbYzbZzcETAsDIGIT EIGHTyFIV",
    "EzaOURyNINEyONEySEVENzaIXyTHREEzaWOyZEROsEPSILON SYMBOLsFRAKTUR CAPITAL AzjBzjCzjDzjEzjFzjGz",
    "jHzjIzjJzjKzjLzjMzjNzjOzjPzjQzjRzjSzjTzjUzjVzjWzjXzjYzjZzbSMALL AzhBzhCzhDzhEzhFzhGzhHzhIzhJ",
    "zhKzhLzhMzhNzhOzhPzhQzhRzhSzhTzhUzhVzhWzhXzhYzhZsITALIC CAPITAL AzjLPHAziBzjETAziCzjHIziDzjE",
    "LTAziEzjPSILONzjTAziFziGzjAMMAziHziIzjOTAziJziKzjAPPAziLzjAMDAziMzjUziNzjUziOzjMEGAzkICRONzi",
    "PzjHIzjIzjSIziQziRzjHOziSzjIGMAziTzjAUzjHETAzn SYMBOLziUzjPSILONziVziWziXzjIziYziZzjETAzaEPS",
    "ILON SYMBOLzaKAPPA SYMBOLzaNABLAzaPARTIAL DIFFERENTIALzbHI SYMBOLzbI SYMBOLzaRHO SYMBOLzaSMA",
    "LL AzhLPHAzgBzhETAzgCzhHIzgDzhELTAzgEzhPSILONzhTAzgFzhINAL SIGMAzgGzhAMMAzgHzgIzhOTAzgJzgKzh",
    "APPAzgLzhAMDAzgMzhUzgNzhUzgOzhMEGAziICRONzgPzhHIzhIzhSIzgQzgRzhHOzgSzhIGMAzgTzhAUzhHETAzgUzh",
    "PSILONzgVzgWzgXzhIzgYzgZzhETAzaTHETA SYMBOLsKAPPA SYMBOLsNABLAsPARTIAL DIFFERENTIALtHI SYMBO",
    "LtI SYMBOLsRHO SYMBOLsSCRIPT CAPITAL AziBziCziDziEziFziGziHziIziJziKziLziMziNziOziPziQziRziS",
    "ziTziUziVziWziXziYziZzaSMALL AzgBzgCzgDzgEzgFzgGzgHzgIzgJzgKzgLzgMzgNzgOzgPzgQzgRzgSzgTzgUzg",
    "VzgWzgXzgYzgZtMALL AzaLPHAyBzaETAyCzaHIyDzaELTAzaIGAMMAyEzaPSILONzaTAyFzaINAL SIGMAyGzaAMMAy",
    "HyIzaOTAyJyKzaAPPAyLzaAMDAyMzaUyNzaUyOzaMEGAzbICRONyPzaHIzaIzaSIyQyRzaHOySzaIGMAyTzaAUzaHETA",
    "yUzaPSILONyVyWyXzaIyYyZzaETAsTHETA SYMBOLnDOUBLE-STRUCK CAPITAL AzkBzkDzkEzkFzkGzkIzkJzkKzkL",
    "zkMzkOzkSzkTzkUzkVzkWzkXzkYzcDIGIT EIGHTziFIVEzjOURziNINEziONEziSEVENzjIXziTHREEzjWOziZEROzc",
    "SMALL AziBziCziDziEziFziGziHziIziJziKziLziMziNziOziPziQziRziSziTziUziVziWziXziYziZnFALLING D",
    "IAGONALoRAKTUR CAPITAL AzeBzeDzeEzeFzeGzeJzeKzeLzeMzeNzeOzePzeQzeSzeTzeUzeVzeWzeXzeYvSMALL A",
    "zcBzcCzcDzcEzcFzcGzcHzcIzcJzcKzcLzcMzcNzcOzcPzcQzcRzcSzcTzcUzcVzcWzcXzcYzcZnITALIC CAPITAL A",
    "zeLPHAzdBzeETAzdCzeHIzdDzeELTAzdEzePSILONzeTAzdFzdGzeAMMAzdHzdIzeOTAzdJzdKzeAPPAzdLzeAMDAzdM",
    "zeUzdNzeUzdOzeMEGAzfICRONzdPzeHIzeIzeSIzdQzdRzeHOzdSzeIGMAzdTzeAUzeHETAzi SYMBOLzdUzePSILONz",
    "dVzdWzdXzeIzdYzdZzeETAuEPSILON SYMBOLuKAPPA SYMBOLuNABLAuPARTIAL DIFFERENTIALvHI SYMBOLvI SY",
    "MBOLuRHO SYMBOLuSMALL AzcLPHAzbBzcETAzbCzcHIzbDzcELTAzcOTLESS IzjJzbEzcPSILONzcTAzbFzcINAL S",
    "IGMAzbGzcAMMAzbIzcOTAzbJzbKzcAPPAzbLzcAMDAzbMzcUzbNzcUzbOzcMEGAzdICRONzbPzcHIzcIzcSIzbQzbRzc",
    "HOzbSzcIGMAzbTzcAUzcHETAzbUzcPSILONzbVzbWzbXzcIzbYzbZzcETAuTHETA SYMBOLnLEFT ANGLE BRACKETsD",
    "OUBLE ANGLE BRACKETsFLATTENED PARENTHESISsWHITE SQUARE BRACKETyTORTOISE SHELL BRACKETnMONOSP",
    "ACE CAPITAL AzgBzgCzgDzgEzgFzgGzgHzgIzgJzgKzgLzgMzgNzgOzgPzgQzgRzgSzgTzgUzgVzgWzgXzgYzgZxDIG",
    "IT EIGHTzeFIVEzfOURzeNINEzeONEzeSEVENzfIXzeTHREEzfWOzeZEROxSMALL AzeBzeCzeDzeEzeFzeGzeHzeIze",
    "JzeKzeLzeMzeNzeOzePzeQzeRzeSzeTzeUzeVzeWzeXzeYzeZnRIGHT ANGLE BRACKETtDOUBLE ANGLE BRACKETtF",
    "LATTENED PARENTHESIStWHITE SQUARE BRACKETzaTORTOISE SHELL BRACKETpSING DIAGONALnSANS-SERIF B",
    "OLD CAPITAL AznLPHAzmBznETAzmCznHIzmDznELTAzmEznPSILONznTAzmFzmGznAMMAzmHzmIznOTAzmJzmKznAPP",
    "AzmLznAMDAzmMznUzmNznUzmOznMEGAzoICRONzmPznHIznIznSIzmQzmRznHOzmSznIGMAzmTznAUznHETAzr SYMBO",
    "LzmUznPSILONzmVzmWzmXznIzmYzmZznETAzeDIGIT EIGHTzkFIVEzlOURzkNINEzkONEzkSEVENzlIXzkTHREEzlWO",
    "zkZEROzeEPSILON SYMBOLzeITALIC CAPITAL AzuLPHAztBzuETAztCzuHIztDzuELTAztEzuPSILONzuTAztFztGz",
    "uAMMAztHztIzuOTAztJztKzuAPPAztLzuAMDAztMzuUztNzuUztOzuMEGAzvICRONztPzuHIzuIzuSIztQztRzuHOztS",
    "zuIGMAztTzuAUzuHETAzy SYMBOLztUzuPSILONztVztWztXzuIztYztZzuETAzlEPSILON SYMBOLzlKAPPA SYMBOL",
    "zlNABLAzlPARTIAL DIFFERENTIALzmHI SYMBOLzmI SYMBOLzlRHO SYMBOLzlSMALL AzsLPHAzrBzsETAzrCzsHI",
    "zrDzsELTAzrEzsPSILONzsTAzrFzsINAL SIGMAzrGzsAMMAzrHzrIzsOTAzrJzrKzsAPPAzrLzsAMDAzrMzsUzrNzsU",
    "zrOzsMEGAztICRONzrPzsHIzsIzsSIzrQzrRzsHOzrSzsIGMAzrTzsAUzsHETAzrUzsPSILONzrVzrWzrXzsIzrYzrZz",
    "sETAzlTHETA SYMBOLzeKAPPA SYMBOLzeNABLAzePARTIAL DIFFERENTIALzfHI SYMBOLzfI SYMBOLzeRHO SYMB",
    "OLzeSMALL AzlLPHAzkBzlETAzkCzlHIzkDzlELTAzkEzlPSILONzlTAzkFzlINAL SIGMAzkGzlAMMAzkHzkIzlOTAz",
    "kJzkKzlAPPAzkLzlAMDAzkMzlUzkNzlUzkOzlMEGAzmICRONzkPzlHIzlIzlSIzkQzkRzlHOzkSzlIGMAzkTzlAUzlHE",
    "TAzkUzlPSILONzkVzkWzkXzlIzkYzkZzlETAzeTHETA SYMBOLyCAPITAL AzhBzhCzhDzhEzhFzhGzhHzhIzhJzhKzh",
    "LzhMzhNzhOzhPzhQzhRzhSzhTzhUzhVzhWzhXzhYzhZyDIGIT EIGHTzfFIVEzgOURzfNINEzfONEzfSEVENzgIXzfTH",
    "REEzgWOzfZEROyITALIC CAPITAL AzoBzoCzoDzoEzoFzoGzoHzoIzoJzoKzoLzoMzoNzoOzoPzoQzoRzoSzoTzoUzo",
    "VzoWzoXzoYzoZzgSMALL AzmBzmCzmDzmEzmFzmGzmHzmIzmJzmKzmLzmMzmNzmOzmPzmQzmRzmSzmTzmUzmVzmWzmXz",
    "mYzmZySMALL AzfBzfCzfDzfEzfFzfGzfHzfIzfJzfKzfLzfMzfNzfOzfPzfQzfRzfSzfTzfUzfVzfWzfXzfYzfZoCRI",
    "PT CAPITAL AzdCzdDzdGzdJzdKzdNzdOzdPzdQzdSzdTzdUzdVzdWzdXzdYzdZuSMALL AzbBzbCzbDzbFzbHzbIzbJ",
    "zbKzbLzbMzbNzbPzbQzbRzbSzbTzbUzbVzbWzbXzbYzbZcXIMIZEcYAN NUMERAL EIGHTtEENpLEVENoFIFTEENqVEp",
    "OURsTEENoNINEsTEENoONEoSEVENtTEENpIXrTEENoTENpHIRTEENqREEpWELVEqOoZERObEASURED ANGLEo OPENIN",
    "G LEFTpWITH OPEN ARM ENDING IN ARROW POINTING DOWN AND LEFTzznRIGHTzzeLEFT AND DOWNzznUPzzeR",
    "IGHT AND DOWNzzoUPzzeUP AND LEFTzzlRIGHTjBYjRIGHT ANGLE WITH DOTdT ON BONEcCHANICAL ARMlLEGc",
    "DEFAIDRIN CAPITAL LETTER AzdIzdTIUzcBzcCzcDzcEzcFzcGzcHzdPzcIzcJzcKzdPzcLzcMzcNzdGzdYzcOzdEz",
    "cPzcQzcRzcSzcTzcUzcVzcWzcXzcYzdUzcZnOMMAmDIGIT EIGHTsFIVEtOURsNINEsONEv ALTERNATE FORMsSEVEN",
    "tIXsTHREEx ALTERNATE FORMtWOv ALTERNATE FORMsZEROmEXCLAMATION OHmFULL STOPmNUMBER EIGHTEENuL",
    "EVENtFIFTEENuOURTEENtNINETEENtSEVENTEENuIXTEENtTENuHIRTEENuWELVEmSMALL LETTER AzbIzbTIUzaBza",
    "CzaDzaEzaFzaGzaHzbPzaIzaJzaKzbPzaLzaMzaNzbGzbYzaOzbEzaPzaQzaRzaSzaTzaUzaVzaWzaXzaYzbUzaZnYMB",
    "OL AIVAdIEVAL COMMAjEXCLAMATION MARKjQUESTION MARKeUM BLACK CIRCLEiOLD WHITE CIRCLEhEIGHT PO",
    "INTED BLACK STARnSPOKED ASTERISKhFIVE SPOKED ASTERISKiLATTENED LEFT PARENTHESIS ORNAMENTrRIG",
    "HT PARENTHESIS ORNAMENTiOUR POINTED BLACK STARuPINWHEEL STARhGREEK CROSShLEFT CURLY BRACKET ",
    "ORNAMENTmPARENTHESIS ORNAMENTl-POINTING ANGLE BRACKET ORNAMENThMATHEMATICAL SPACEhRIGHT CURL",
    "Y BRACKET ORNAMENTnPARENTHESIS ORNAMENTm-POINTING ANGLE BRACKET ORNAMENThSALTIREiHADEiIX POI",
    "NTED BLACK STARlSPOKED ASTERISKiMALL WHITE CIRCLEhTHREE POINTED BLACK STARvPINWHEEL STARhVER",
    "TICAL BARhWHITE CIRCLEnSQUAREcETEI MAYEK AHANG KHUDAMoNJIoPUN IYEKnCHEIKHANtEInDIGIT EIGHTtF",
    "IVEuOURtNINEtONEtSEVENuIXtTHREEuWOtZEROnLETTER ATIYAuBAvHAMuCHAwILuDDAwHAvHOUvILuEuGHOUvOKuH",
    "UKuIv LONSUMuJHAMvILuKHOUvOKx LONSUMuLAIx LONSUMuMITx LONSUMuNAw LONSUMvGOUy LONSUMvNAvYAuOu",
    "PAw LONSUMvHAMuRAIuSAMvHAvSAuTHOUvILx LONSUMvTAwHAuUNuWAIuYANGoUM IYEKnSYLLABLE REPETITION M",
    "ARKnVIRAMAoOWEL SIGN AAIzbUzaNAPzaUyCHEINAPyIIzaNAPyNUNGyONAPySOUNAPyUNAPzaUyVISARGAyYENAPnW",
    "ORD REPETITION MARKcLONdTING FACEcMOcNDE KIKAKUI COMBINING NUMBER HUNDRED THOUSANDSznSzgMILL",
    "IONSzgTEENSziN THOUSANDSzjSzhHOUSANDSoDIGIT EIGHTuFIVEvOURuNINEuONEuSEVENvIXuTHREEvWOoSYLLAB",
    "LE M001 KIzb2 KAzb3 KUzb4 WIzb5 WAzb6 WUzb7 MINzb8 MANzb9 MUNza10 BIzb1 BAzb2 BUzb3 Izb4 Azb",
    "5 Uzb6 DIzb7 DAzb8 DUzb9 SIza20 SAzb1 SUzb2 TIzb3 TAzb4 TUzb5 LIzb6 LAzb7 LUzb8 JIzb9 JAza30",
    " JUzb1 YIzb2 YAzb3 YUzb4 FIzb5 FAzb6 FUzb7 NINzb8 NANzb9 NUNza40 HEEzb1 HAzb2 HOOzb3 NGGAzb4",
    " KPEEzb5 WOzb6 HUANzb7 MBEEzb8 KOzb9 WVAza50 PUzb1 PEzb2 HENzb3 HINzb4 LOOzb5 TEzb6 GBAzb7 N",
    "GONzb8 NYANzb9 MENza60 NYONzb1 WVIzb2 MBAzb3 JOzb4 NDOzb5 KEEzb6 POzb7 NDOOzb8 PIzb9 TOza70 ",
    "GBOzb1 GBOOzb2 MBEzb3 LEzb4 KPUzb5 FEzb6 KOOzb7 VOzb8 FEEzb9 SOza80 YEzb1 PEEzb2 NGGUzb3 HEE",
    "Izb4 LEEzb5 VEzb6 LONG NGGEzb7 HUNzb8 FOzb9 DEEza90 NGGIzb1 TEEzb2 KPAzb3 GBEEzb4 MONzb5 KEz",
    "b6 HEzb7 BEzb8 NYENzb9 PAy100 Ezb1 FANzb2 POOzb3 BOOzb4 TOOzb5 LONG MBOOzb6 LONG NGGOOzb7 GB",
    "Ezb8 KPEzb9 YEEza10 LONG LEzb1 GAzb2 KPOOzb3 JEzb4 WOOzb5 NGGEEzb6 SEzb7 NENzb8 WEzb9 NDEza2",
    "0 NGGOzb1 YOzb2 MBUzb3 NDIzb4 GBIzb5 NDUzb6 WEEzb7 NGGUAzb8 HOOUzb9 NDAza30 HANzb1 INzb2 KPI",
    "zb3 FOOzb4 NJOOzb5 INzb6 SOOzb7 EIzb8 BOzb9 WVEza40 HOzb1 YOOzb2 LONG MBOzb3 WEIzb4 VOOzb5 M",
    "BIzb6 NGGEzb7 Ozb8 GBUzb9 NJEEza50 BEEzb1 VUzb2 NJAzb3 LOzb4 MUANzb5 GIzb6 NGGOOzb7 JEEzb8 K",
    "POzb9 NGGAAza60 JOOzb1 LONG MBEzb2 SEEzb3 EEzb4 NYINzb5 OOzb6 GUEIzb7 GUANzb8 GUzb9 NONza70 ",
    "NYUNzb1 RAzb2 MBOOzb3 VEEzb4 MBOzb5 LONG JOzb6 HIzb7 NGUANzb8 ENzb9 KUAza80 DOOzb1 DOzb2 VIz",
    "b3 LONG NGGOzb4 NGENzb5 VAzb6 HUzb7 MBUUzb8 MBEEzb9 MUENza90 GEEzb1 NDEEzb2 NJUzb3 HONzb4 WU",
    "Izb5 ANzb6 SIAzb7 FUAdORAH WITH NINE BRANCHESdS SYMBOLcRCURYdOITIC CURSIVE FRACTION EIGHT TW",
    "ELFTHSzcLEVEN TWELFTHSzbFIVE TWELFTHSzcOUR TWELFTHSzbNINE TWELFTHSzbONE HALFzfTWELFTHzbSEVEN",
    " TWELFTHSzcIX TWELFTHSzbTEN TWELFTHSzcHREE TWELFTHSzcWO TWELFTHSrLETTER AzaRCHAIC SAyBAyDAyE",
    "yHHAyIyKAzaHAyLAyMAyNAzaEyOyPAyQAyRAySAzaEyTAzaEzaOyWAyYAsOGOGRAM IMNzbRMTrNUMBER EIGHTze HU",
    "NDREDzm THOUSANDzfTHOUSANDzeY THOUSANDyFIFTYze THOUSANDzbVEzd HUNDREDzl THOUSANDzeTHOUSANDza",
    "ORTYze THOUSANDzbURzd HUNDREDzl THOUSANDzeTHOUSANDyNINEzd HUNDREDzl THOUSANDzeTHOUSANDzdTY T",
    "HOUSANDyONEzc HUNDREDzk THOUSANDzdTHOUSANDySEVENze HUNDREDzm THOUSANDzfTHOUSANDzeTYzg THOUSA",
    "NDzaIXzc HUNDREDzk THOUSANDzdTHOUSANDzcTYze THOUSANDyTENzc THOUSANDzaHIRTYzf THOUSANDzbREEze",
    " HUNDREDzm THOUSANDzfTHOUSANDzaWENTYzf THOUSANDzbOzc HUNDREDzk THOUSANDzdTHOUSANDjHIEROGLYPH",
    "IC LETTER AzeBAzg-2zeDAzeEzeHHAzeIzeKAzfHAzeLAzeMAzeNAzg-2zfEzg-2zeOzePAzeQAzeRAzg-2zeSAzg-2",
    "zfEzeTAzg-2zfEzg-2zfOzeWAzeYAwSYMBOL VIDJzi-2dPERSONcSSAGE WAITINGcTRICAL BREVEjLONG OVER SH",
    "ORTtTWO SHORTSjPENTASEMEjSHORT OVER LONGjTETRASEMEkRISEMEkWO SHORTS JOINEDuOVER LONGeObIAO L",
    "ETTER AHnRCHAIC MAuNAvGAuZZAmBAnRImDAnDAnLHApYAnZAoHAoYIoZAmFAmGAnHAoHAmHAnHAmKAmLAnHAoYAnYA",
    "mMAnHAmNAoSALIZATIONnGAoHAnHAnNAoHAnYAoHAmPAnLAmQAnGAmREFORMED TONE-1zb2zb4zb5zb6zb8wSHAnTEm",
    "SAnHAnSAnYImTAnEnLHApYAnONE-2r3r4r5r6r7r8nSAoEoHAoSAnTAmVAnFAmWAmXAmYI DZHApKApNNApPApTAqSAr",
    "HAqTAmZAnHAnSAoHAnZAoSApYAoYAfSIGN ASPIRATIONkCONSONANT MODIFIER BARkREFORMED ASPIRATIONtVOI",
    "CINGfTONE ABOVEkBELOWkRIGHTkTOP RIGHTfVOWEL SIGN ArArEsErHHrIrNsGrUqErArIrNsGrRsRqIrAsNtGrEr",
    "GrIrNGrOsNGrUqNrGqOrERsYrGrOrUqROUNDED ERzbRqUrAsNtGrEIrIrNGrOGrUqVWqWrOqYrIrUIcCR DASH SYMB",
    "OLfON US SYMBOLeO SIGNfBEfPHONEfSCOPEcDDLE DOThTHIRD WHITE RIGHT POINTING INDEXdLINE HORIZON",
    "TAL ELLIPSIScLITARY HELMETjMEDALdKY WAYdL SIGNcNIBUSeDISCeMIZEdUS SIGNk IN TRIANGLElWITH COM",
    "MA ABOVEqDOT BELOWqFALLING DOTSqRISING DOTSgTILDEf-OR-PLUS SIGNdYcRRORg BALLbMSPbOBILE PHONE",
    "m OFFnWITH RIGHTWARDS ARROW AT LEFTcDELSeRN PENTATHLONdI ABBREVIATION SIGNfDANDAgIGIT EIGHTl",
    "FIVEmOURlNINElONElSEVENmIXlTHREEmWOlZEROgOUBLE DANDAfLETTER AnAnInUmBAnHAmCAnHAmDAnDAoHAnHAm",
    "EmGAnHAmHAmInImJAnHAmKAnHAmLAnLAmMAmNAnGAnNAnYAmOmPAnHAmRAmSAnHAnSAmTAnHAnTAoHAmUnUmVAnOCALI",
    "C LvLuRvRmYAfSIGN ANUSVARAlRDHACANDRAkHUVAkVIRAMAmSARGAfVOWEL SIGN AArIrUqEqIrIqOqUrUqVOCALI",
    "C LzaLyRzaReFIER BREVE WITH INVERTED BREVEjLETTER ACUTE ACCENTrLVEOLAR CLICKrPOSTROPHEqBEGIN",
    " HIGH TONEwLOW TONErILABIAL CLICKqCAPITAL AzaEyBzaARRED ByCyDyEyFyGyHza WITH STROKEyIyJyKyLy",
    "MyNyOzaUyPyQyRzaEVERSED EziNyTyUyVyWrENTRED LEFT HALF RINGyRIGHT HALF RINGrHINESE TONE YANG ",
    "PINGzjQUzjRUzjSHANGzfIN PINGziQUziRUziSHANGrIRCUMFLEX ACCENTrOLONrROSS ACCENTrYRILLIC ENzaHA",
    "RD SIGNzaSOFT SIGNqDENTAL CLICKrOT HORIZONTAL BARuSLASHuVERTICAL BARsUBLE APOSTROPHExPRIMEsW",
    "N ARROWHEADvTACKqEND HIGH TONEuLOW TONErXTRA-HIGH DOTTED LEFT-STEM TONE BARzjTONE BARzcLEFT-",
    "STEM TONE BARzcTONE BARwLOW DOTTED LEFT-STEM TONE BARziTONE BARzbLEFT-STEM TONE BARzbTONE BA",
    "RqGEORGIAN NARrLOTTAL STOPzd WITH STROKErRAVE ACCENTqHALF TRIANGULAR COLONrIGH DOTTED LEFT-S",
    "TEM TONE BARzdTONE BARvLEFT-STEM TONE BARvTONE BARqLATERAL CLICKrEFT ARROWHEADvHALF RINGvTAC",
    "KrOW ACUTE ACCENTuCIRCUMFLEX ACCENTuDOTTED LEFT-STEM TONE BARzcTONE BARwWN ARROWHEADuGRAVE A",
    "CCENTuINVERTED EXCLAMATION MARKuLEFT ARROWzfHEADy-STEM TONE BARuMACRONuRIGHT ARROWHEADwNGuTI",
    "LDEvONE BARuUP ARROWHEADuVERTICAL LINEtER RIGHT CORNER ANGLEqMACRONrID DOTTED LEFT-STEM TONE",
    " BARzcTONE BARuLEFT-STEM TONE BARuTONE BARtDLE DOUBLE ACUTE ACCENTzfGRAVE ACCENTxGRAVE ACCEN",
    "TsNUS SIGNqOPEN SHELFqPLUS SIGNrRIMEqRAISED COLONxDOWN ARROWxEXCLAMATION MARKxINVERTED EXCLA",
    "MATION MARKxUP ARROWrETROFLEX CLICK WITH RETROFLEX HOOKsVERSED COMMAzaGLOTTAL STOPzm WITH ST",
    "ROKErHOTIC HOOKrIGHT ARROWHEADwHALF RINGwTACKqSHELFsORT EQUALS SIGNrMALL AxExINxLPHAwBx WITH",
    " HOOKxARRED OxETAxOTTOM HALF OwCx WITH CURLxAPITAL AAzfBzfGzg WITH HOOKzfHzfIzg WITH STROKEz",
    "gNVERTED RzfLzg WITH BELTzfNzfOEzfRzfUzfYxHIxLOSED OMEGAzeREVERSED OPEN EwDx WITH HOOKzi AND",
    " TAILzeTAILxELTAyZH DIGRAPHxOTLESS J WITH STROKEzs AND HOOKxZ DIGRAPHzh WITH CURLznRETROFLEX",
    " HOOKwExNGxSHxTHxZHwFxENG DIGRAPHwGx WITH HOOKxAMMAxREEK GAMMAzdPHIwHx WITH HOOKzeSTROKExENG",
    "zb WITH HOOKwI WITH STROKExOTAwJx WITH CROSSED-TAILwKwLx WITH BELTzeINVERTED LAZY SzeMIDDLE ",
    "TILDEzePALATAL HOOKzeRETROFLEX HOOKzs AND BELTxEZHzb WITH RETROFLEX HOOKxIGATURE OExS DIGRAP",
    "HxZ DIGRAPHwMx WITH HOOKwN WITH LEFT HOOKzeRETROFLEX HOOKwOx WITH STROKExPEN EzcOwPxHIwQwRx ",
    "WITH FISHHOOKzeTAILxAMS HORNxEVERSED EzgGLOTTAL STOPzgOPEN EwSx WITH CURLzeHOOKxCHWAyRIPT Gx",
    "IDEWAYS UwTx WITH PALATAL HOOKzeRETROFLEX HOOKxC DIGRAPH WITH CURLxESH DIGRAPHxHETAxOP HALF ",
    "OxS DIGRAPHzh WITH RETROFLEX HOOKxURNED AzfEzfLPHAzeHzeIzeMzf WITH LONG LEGzeOPEN EzeRzf WIT",
    "H HOOKzlLONG LEGzt AND RETROFLEX HOOKzeVzeWzeYzf WITH BELTwUx BARyWITH LEFT HOOKxPSILONwVx W",
    "ITH HOOKzeRIGHT HOOKwWwXwYwZx WITH CURLzeRETROFLEX HOOKrTRESS AND HIGH TONEzcLOW TONErUPERSC",
    "RIPT HALF TRIANGULAR COLONzdTRIANGULAR COLONqTRIANGULAR COLONrURNED COMMAqUNASPIRATEDrP ARRO",
    "WHEADtTACKrSqVERTICAL LINErOICINGqYANG DEPARTING TONE MARKrIN DEPARTING TONE MARKdULO TWO SU",
    "McNEY BAGgWITH WINGSf-MOUTH FACEdGOLIAN BIRGAp WITH DOUBLE ORNAMENTvORNAMENTkCOLONmMMAkDIGIT",
    " EIGHTqFIVErOURqNINEqONEqSEVENrIXqTHREErWOqZEROlOUBLE BIRGA WITH ORNAMENTkELLIPSISkFOUR DOTS",
    "lREE VARIATION SELECTOR FOURzjONEzjTHREEzkWOlULL STOPkINVERTED BIRGAy WITH DOUBLE ORNAMENTkL",
    "ETTER AsLI GALI AzcHzcNUSVARA ONEzbBALUDAzbCAzbDAzdGALGAzdMARUzcDAzbHALF UzgYAzbIzcNVERTED U",
    "BADAMAzbKAzbNGAzcNAzbPAzcHAzbSSAzbTAzcHREE BALUDAzcTAzdHAzbUBADAMAzbVISARGA ONEzbZAzcHAsNGrB",
    "ArCHAu WITH TWO DOTStIrDArEsErFArGArHAArIrJArKAsHArLAsHArMAtNCHU ALI GALI BHAziCAzjYAziDDHAz",
    "jHAziGHAziJHAziLHAziNGAziSSAziTAzjTAziZAzjHAyFAyIyKAyRAyZHArNArOsErPArQArRArSAsHAsIBE ANGwCH",
    "AwDAwEwFAwGAyAwHAyAwIxYwJAwKAwPAwRAAwSHAwTAxSAwUxEwZAxHArTAsODO ALI GALI TAzgZHAxNGwBAwCHAwD",
    "AxZAwEwGAyAwHAAwIwJAxIAwKAwLONG VOWEL SIGNwMAwNIAwOxEwPAwQAwTAxSAwUxEwWAwYAsSArUsErWArYArZAs",
    "HIsRAkMANCHU COMMArFULL STOPkNIRUGUkROTATED BIRGAx WITH DOUBLE ORNAMENTzeORNAMENTkSIBE SYLLA",
    "BLE BOUNDARY MARKERlWIRL BIRGAv WITH DOUBLE ORNAMENTzcORNAMENTkTODO SOFT HYPHENlRIPLE BIRGA ",
    "WITH ORNAMENTlURNED SWIRL BIRGA WITH DOUBLE ORNAMENTkVOWEL SEPARATORdKEYg FACEdOGRAM FOR EAR",
    "THnYANGoINeRAILeSTABLE SYMBOLcOD BUBBLEdN CAKEfVIEWING CEREMONYcSQUEfITOcTHER CHRISTMASdOR B",
    "OATgSCOOTERfIZED WHEELCHAIRfWAYcUNT FUJIfAINi BICYCLISTjCABLEWAYjRAILWAYdSEf FACEgTRAPdTHcVI",
    "E CAMERAcYAIbRO DANDAfIGIT EIGHTkFIVElOURkNINEkONEkSEVENlIXkTHREElWOkZEROfOUBLE DANDAeLETTER",
    " AlBAlCHUlDAnIlEmAlHAInOlKEAAEmHAImOlLAnNlMAEMmIMlNGImINlOmLmOlPAmHIlRImOlSHIlTAmEKmHEAlWAlY",
    "ObUCH GREATER-THANfLESS-THANcLTANI LETTER ApBAqHApCAqHApDAqDArDArHAqHApEpGAqHApHApIpJAqJApKA",
    "qHApLApMApNAqNAqYApPAqHApRAqHAqRApSApTAqHAqTArHApUpVApYAiSECTION MARKeIMAPfPLE MUSICAL NOTES",
    "hICATION SIGNt IN DOUBLE CIRCLExLEFT HALF CIRCLExRIGHT HALF CIRCLExTRIANGLEuWITH DOT ABOVEza",
    "UNDERBARpXfSETi MULTIPLICATIONjUNIONcSHROOMdIC FLAT SIGNgNATURAL SIGNgSHARP SIGNfAL KEYBOARD",
    "q WITH JACKSiNOTEiSCOREjYMBOL ARPEGGIATO DOWNzbUPpBEGIN BEAMvPHRASEvSLURvTIEqRACEtKETrEATH M",
    "ARKsVEtISv RESTpC CLEFqAESURAqIRCLE X NOTEHEADqLIMACUSsVISrUSTER NOTEHEAD BLACKzhWHITEqODArM",
    "BINING ACCENTzg-STACCATOzbUGMENTATION DOTzaBENDzaDOITzcUBLE TONGUEzcWN BOWzaFLAG-1zf2zf3zf4z",
    "f5zcIPzaHARMONICzaLOUREzaMARCATOzh-STACCATOzaRIPzaSMEARzbNAP PIZZICATOzbPRECHGESANG STEMzbTA",
    "CCATISSIMOzhOzcEMzaTENUTOzbREMOLO-1zi2zi3zcIPLE TONGUEzaUP BOWsMON TIMEqRESCENDOrOIXqUT TIME",
    "pDA CAPOrL SEGNOrMPt ALLrSHED BARLINEqECRESCENDOrGREE SLASHqOUBLE BARLINEwFLATwSHARPqRUM CLE",
    "F-1za2pEIGHTH NOTEwRESTqND BEAMtOF STIMMEtPHRASEtSLURtTIEpF CLEFv OTTAVA ALTAzeBASSAqERMATAw",
    " BELOWqINAL BARLINEsGERED TREMOLO-1zh2zh3rVE-LINE STAFFqLAT DOWNuUPqORTErUR-LINE STAFFuSTRIN",
    "G FRETBOARDqUSA BLACKuWHITEpG CLEFv OTTAVA ALTAzeBASSAqLISSANDO DOWNzaUPqRACE NOTE NO SLASHz",
    "bSLASHrEGORIAN C CLEFzaF CLEFpHALF NOTEuPEDAL MARKuRESTrUPTSTIMMEpINVERTED TURNpKIEVAN C CLE",
    "FwEIGHTH NOTE STEM DOWNzoUPxND OF PIECEwFINAL NOTExLAT SIGNwHALF NOTEwQUARTER NOTE STEM DOWN",
    "zpUPwRECITATIVE MARKwWHOLE NOTEqORONpLEFT REPEAT SIGNqONGAu IMPERFECTA RESTvPERFECTA RESTpMA",
    "XIMAqEZZOqINIMAv BLACKwRESTqOON NOTEHEAD BLACKzeWHITEqULTI RESTuPLE MEASURE RESTpNATURAL DOW",
    "NxUPqEBENSTIMMEqOTEHEAD BLACKqULL NOTEHEADpONE HUNDRED TWENTY-EIGHTH NOTEzqRESTs-LINE STAFFq",
    "RNAMENT STROKE-1zh0zh1zg2zg3zg4zg5zg6zg7zg8zg9qTTAVA ALTAwBASSApPARENTHESIS NOTEHEADqEDAL MA",
    "RKvUP MARKrS SUBPUNCTISqIANOqLUS NOTEHEADqODATUSrRRECTUSy FLEXUSpQUARTER NOTExRESTxTONE FLAT",
    "zdSHARPrINDICESIMA ALTAzdBASSApREPEAT DOTSvED FIGURE-1zg2zg3rVERSE FINAL BARLINEqIGHT REPEAT",
    " SIGNrNFORZANDOpSCANDICUSy FLEXUSqEGNOrMIBREVIS BLACKzbRESTzbWHITEtMINIMA BLACKzbRESTzbWHITE",
    "qHARP DOWNvUPrORT BARLINEqINGLE BARLINErX-LINE STAFFtSTRING FRETBOARDsTEENTH NOTEzaRESTtY-FO",
    "URTH NOTEzdRESTqORIqQUARE BwNOTEHEAD BLACKzgWHITEqUBITOpTEMPUS IMPERFECTUM CUM PROLATIONE IM",
    "PERFECTAzzj DIMINUTION-1zzv2zzv3zyPERFECTAwPERFECTUM CUM PROLATIONE IMPERFECTAzwPERFECTAzzf ",
    "DIMINUTION-1qHIRTY-SECOND NOTEzeRESTrREE-LINE STAFFqORCULUSx RESUPINUSqRrIANGLE NOTEHEAD DOW",
    "N BLACKznWHITEziLEFT BLACKznWHITEziRIGHT BLACKzoWHITEziUP BLACKzlRIGHT BLACKzrWHITEzlWHITEx-",
    "ROUND NOTEHEAD DOWN BLACKztWHITEqURNt SLASHuUPqWO-LINE STAFFpVIRGAqOID NOTEHEADpWHOLE NOTEvR",
    "ESTqITH FINGERNAILSpX NOTEHEADpZbVSbWbYANMAR CONSONANT SIGN MEDIAL HAzfRAzfWAzfYAyON MEDIAL ",
    "LAzjMAzjNAxSHAN MEDIAL WAiDIGIT EIGHToFIVEpOURoNINEoONEoSEVENpIXoTHREEpWOoZEROiLETTER AqITON",
    " RAqUpBAqHApCAqHApDAqDArHAqHApEqASTERN PWO KAREN GHWAziNNAziYWApGAqHAqREAT SApHApIqIpJAqHApK",
    "AqHAsMTI CAxHAwDDAyHAxHAwFAwGAwHAxHAwJAxHAwLLAwNAxYAwRAwSAwTTAyHAwXAwZApLAqLApMAqON BBAvEtEt",
    "JHAtNGApNAqGAqNArYAqYApOpPAqHApRAqUMAI PALAUNG FApSAqGAW KAREN SHAqHAsN AuBAvHAuCAvHAuDAuFAu",
    "GAvHAuHAuJHAuKAvHAuNAvNAvYAuPHAuTHAuZArWE PALAUNG CHAzdSHAqSApTArI LAING BAzbHAzaDAzbDAzcHAz",
    "bHAzaFAzaGAzbHAzaJAzbHAzaLLAzaNNAzbYAqHAqTArHApUqUpVOCALIC LyLxRyRpWAqESTERN PWO KAREN PWAzi",
    "THApYAjOGOGRAM KHAMTI HMyOAYyQNiMODIFIER LETTER KHAMTI REDUPLICATIONySHAN REDUPLICATIONiSHAN",
    " DIGIT EIGHTtFIVEuOURtNINEtONEtSEVENuIXtTHREEuWOtZEROjIGN ANUSVARAoSATnDOT BELOWnKHAMTI TONE",
    "-1za3nLITTLE SECTIONnPAO KAREN TONEnRUMAI PALAUNG TONE-5nSECTIONoHAN COUNCIL EMPHATIC TONEzb",
    "TONE-2zg3sSAWsTONE-2x3x5x6nTAI LAING TONE-2zd5nVIRAMApSARGAnWESTERN PWO KAREN TONE-1zl2zl3zl",
    "4zl5jYMBOL AFOREMENTIONEDqITON EXCLAMATIONvONEvTWOpCOMPLETEDpGENITIVEpLOCATIVEpSHAN EXCLAMAT",
    "IONuONEiTAI LAING DIGIT EIGHTyFIVEzaOURyNINEyONEySEVENzaIXyTHREEzaWOyZEROjONE MARK SGAW KARE",
    "N HATHIzeKE PHOiVOWEL SIGN AAuIvTON AzbItEu ABOVEtGEBA KAREN ItIuItKAYAH EEzaOEzaUtMON IIxOt",
    "SGAW KAREN EUuHAN AAyEza ABOVEyFINAL YtTALL AAtUuUtVOCALIC LzdLzcRzdRtWESTERN PWO KAREN EUzm",
    "UEaN-ARY CIRCLED DOT OPERATORoPLUS OPERATORoTIMES OPERATORhOPRODUCTgINTERSECTIONgLOGICAL AND",
    "oORgPRODUCTgSQUARE INTERSECTION OPERATORnUNION OPERATORhUMMATIONgTIMES OPERATORgUNIONl OPERA",
    "TOR WITH DOTzbPLUSgWHITE VERTICAL BARbABATAEAN CRUCIFORM NUMBER FOURkLETTER ALEPHsYINrBETHrD",
    "ALETHrFINAL ALEPHxBETHxHExKAPHxLAMEDHxMEMxNUNxSHINxYODHrGIMELrHEtTHrKAPHrLAMEDHrMEMrNUNrPErQ",
    "OPHrRESHrSADHEtMEKHsHINrTAWsETHrWAWrYODHrZAYINkNUMBER FIVEsOURrONEu HUNDREDrTENsHREEsWENTYtO",
    "dLAcIL POLISHdRA SIGNcKcME BADGEcNDeINAGARI HEADSTROKEmLETTER AuAuIuUtBAuHAtCAuHAtDAuDAvHAuH",
    "AtEtGAuHAtHAtIuItJAuHAtKAuHAtLAuLAtMAtNAuGAuNAuYAtOtPAuHAtRAuRAtSAuHAuSAtTAuHAuTAvHAtUuUtVAu",
    "OCALIC RzdRtYAmSIGN ANUSVARAsVAGRAHArSIDDHAMrVIRAMAtSARGAmVOWEL SIGN AAyIyUxExIyIxOxPRISHTHA",
    "MATRA ExUyUxVOCALIC RzhRcRROW NO-BREAK SPACEcTIONAL DIGIT SHAPESjPARKcUSEATED FACEcZAR AMULE",
    "TbBHcSPbECKTIEcGATED DOUBLE VERTICAL BAR DOUBLE RIGHT TURNSTILEfIVE ACKNOWLEDGEjCIRCLED DIGI",
    "T ZEROrLATIN CAPITAL LETTER AznBznCznDznEznFznGznHznIznJznKznLznMznNznOznPznQznRznSznTznUznV",
    "znWznXznYznZrNUMBER EIGHTEENzaLEVENyFIFTEENzaOURTEENyNINETEENySEVENTEENzaIXTEENyTHIRTEENzaWE",
    "LVEzcNTYrSQUARErTRIANGLEjDIAGONAL CROSSsDIAMONDsMIDDLE RIGHT TO LOWER CENTREjSQUARED ABrCROS",
    "S MARKrICrLATIN CAPITAL LETTER AznBznCznDznEznFznGznHznIznJznKznLznMznNznOznPznQznRznSznTznU",
    "znVznWznXznYznZrPArQUESTION MARKrSArWCcITHER A SUBSET OF NOR EQUAL TOmPERSET OF NOR EQUAL TO",
    "jPPROXIMATELY NOR ACTUALLY EQUAL TOiGREATER-THAN NOR EQUAL TOzdIVALENT TOzaLESS-THANiLESS-TH",
    "AN NOR EQUAL TOzaIVALENT TOwGREATER-THANcLcPTUNEh FORM TWOcRD FACEcSSUSdT WITH EGGSeING DOLL",
    "ScUTEReRAL CHESS BISHOPu ROTATED NINETY DEGREESzeTWO HUNDRED SEVENTY DEGREESoEQUIHOPPERy ROT",
    "ATED NINETY DEGREESoKINGs ROTATED NINETY DEGREESzcTWO HUNDRED SEVENTY DEGREESpNIGHTu ROTATED",
    " FORTY-FIVE DEGREESzeNINETY DEGREESzeONE HUNDRED THIRTY-FIVE DEGREESzeTHREE HUNDRED FIFTEEN ",
    "DEGREESzfWO HUNDRED SEVENTY DEGREESzqTWENTY-FIVE DEGREESoPAWNs ROTATED NINETY DEGREESzcTWO H",
    "UNDRED SEVENTY DEGREESoQUEENt ROTATED NINETY DEGREESzdTWO HUNDRED SEVENTY DEGREESoROOKs ROTA",
    "TED NINETY DEGREESzcTWO HUNDRED SEVENTY DEGREESoTURNED BISHOPvKINGwNIGHTvPAWNvQUEENvROOKiFAC",
    "EcW LINEeMOON SYMBOLjWITH FACEeSHEQEL SIGNeTAI LUE DIGIT EIGHTsFIVEtOURsNINEsONEsSEVENtIXsTH",
    "REEtWOsZEROmLETTER FINAL BzaDzaKzaMzaNzbGzaVtHIGH BAyDAyFAyHAyKAzaVAyLAyMAyNAzaGAyPAzaHAyQAy",
    "SAzaUAyTAzaHAzaSAyVAyXAzaVAyYAtLOW BAxDAxFAxHAxKAyVAxLAxMAxNAyGAxPAyHAxQAxSAyUAxTAyHAySAxVAx",
    "XAyVAxYAmSIGN LAEuVmTHAM DIGIT ONEnONE MARK-1w2mVOWEL SIGN AAzaYyEyYxExIIyYxOyAzaYyYxUyEzaYy",
    "UyYxVOWEL SHORTENERdA ABBREVIATION SIGNfCOMMAfDANDAgIGIT EIGHTlFIVEmOURlNINElONElSEVENmIXlTH",
    "REEmWOlZEROgOUBLE COMMAmDANDAfGAP FILLERfINSERTION SIGNfLETTER AnAnInUmBAnHAmCAnHAmDAnDAoHAn",
    "HAmEmGAnHAmHAmInImJAnHAmKAnHAmLAnHAmMAnHAmNAnGAoHAnHAnNAnYAoHAmOmPAnHAmRAnHAmSAnHAnSAmTAnHAn",
    "TAoHAmUnUmVEDIC ANUSVARAnOCALIC LvLuRvRmWAmYAfOMfPLACEHOLDER MARKfSANDHI MARKgIDDHIhGN ANUSV",
    "ARAlVAGRAHAkCANDRABINDUkFINAL ANUSVARAkJIHVAMULIYAkNUKTAkUPADHMANIYAkVIRAMAmSARGAfVOWEL SIGN",
    " AArIrUqEqIrIqOqUrUqVOCALIC LzaLyRzaRdLINE LEFTiRIGHTdSPAPERcXT LINEfPAGEbIGHT WITH STARScNJ",
    "AbKO COMBINING DOUBLE DOT ABOVEoLONG DESCENDING TONEtHIGH TONEtLOW TONEtRISING TONEoNASALIZA",
    "TION MARKoSHORT HIGH TONEuLOW TONEuRISING TONEhMAeDANTAYALANfIGIT EIGHTkFIVElOURkNINEkONEkSE",
    "VENlIXkTHREElWOkZEROfOROME SIGNeEXCLAMATION MARKeHIGH TONE APOSTROPHEeLAJANYALANfETTER AlBAl",
    "CHAlDAnGBASINNAlEmElFAlGBAlHAlIlJAmONA CHAqJAqRAlKAlLAlMAlNmAn WOLOSOmYAo WOLOSOlOmOlPAlRAmR",
    "AlSAlTAlUlWAlYAfOW TONE APOSTROPHEeSYMBOL GBAKURUNENlOO DENNENeTAMAN SIGNbLbNBSPbO BICYCLESe",
    "REAK HEREdENTRYi SIGNdMOBILE PHONESdONE UNDER EIGHTEEN SYMBOLdPEDESTRIANSeIRACYdSMOKING SYMB",
    "OLc-BREAK SPACEcMINAL DIGIT SHAPESeSMA SIGNcN-BREAKING HYPHENePOTABLE WATER SYMBOLdFORKINGcR",
    "dDIC MARK SIGNdMAL SUBGROUP OFs OR EQUAL TOdTH EAST AND SOUTH WEST ARROWmRROWq AND SOUTH EAS",
    "T ARROWrCROSSING NORTH WEST ARROWzbSOUTH EAST ARROWrWITH HOOKlBLACK ARROWlDOUBLE ARROWlPOINT",
    "ING BUDuLEAFuVINE LEAFlSANS-SERIF ARROWlTRIANGLE-HEADED ARROWzh TO BARlWHITE ARROWgINDIC FRA",
    "CTION ONE EIGHTHzaHALFzaQUARTERzaSIXTEENTHvTHREE QUARTERSzcSIXTEENTHSmPLACEHOLDER MARKmQUANT",
    "ITY MARKpRTER MARKmRUPEE MARKgWEST AND SOUTH EAST ARROWmRROWq AND NORTH EAST ARROWrCROSSING ",
    "NORTH EAST ARROWrTO CORNERuLONG BARrWITH HOOKlBLACK ARROWlDOUBLE ARROWlPOINTING BUDuLEAFuVIN",
    "E LEAFlSANS-SERIF ARROWlTRIANGLE-HEADED ARROWzh TO BARlWHITE ARROWfEAST-POINTING AIRPLANEcSE",
    "cT A SUBSET OFiPERSET OFfLMOST EQUAL TOfN ELEMENT OFfSYMPTOTICALLY EQUAL TOeCHECK MARKeEQUAL",
    " TOhIVALENT TOeGREATER-THANeIDENTICAL TOeLESS-THANeNORMAL SUBGROUP OFw OR EQUAL TOePARALLEL ",
    "TOeSIGNfQUARE IMAGE OF OR EQUAL TOlORIG",
    "INAL OF OR EQUAL TOeTILDEfRUEdCHED LEFT SEMICIRCLE WITH THREE DOTSjOWER RIGHT-SHADOWED WHITE",
    " RIGHTWARDS ARROWiRIGHT SEMICIRCLE WITH THREE DOTSiUPPER RIGHT-SHADOWED WHITE RIGHTWARDS ARR",
    "OWdEe PADhGEeBOOKi WITH DECORATIVE COVERbULdLcMBER EIGHTEEN FULL STOPiLEVEN FULL STOPhFIFTEE",
    "N FULL STOPiOURTEEN FULL STOPhNINETEEN FULL STOPhSEVENTEEN FULL STOPiIGNjXTEEN FULL STOPhTEN",
    " FULL STOPiHIRTEEN FULL STOPiWELVE FULL STOPkNTY FULL STOPdERO SIGNcSHU ITERATION MARKcT AND",
    " BOLTbYIAKENG PUACHUE HMONG CIRCLED CAxDIGIT EIGHTzeFIVEzfOURzeNINEzeONEzeSEVENzfIXzeTHREEzf",
    "WOzeZEROxLETTER AzgAzfCAzfDAzgLAzfEzgEzfFAzfGAzfHAzhHzfIzfKAzfLAzfMAzgLAzfNAzgCAzgKAzgPAzhLA",
    "zgQAzgRAzgTAzhSAzhXAzgYAzfOzgOzfPAzgLAzfQAzfRAzgRAzfSAzfTAzgSAzgXAzfUzfVAzfWzfXAzgYAzfYAzfZA",
    "yOGOGRAM NYAJxSIGN FOR ANIMALzhINVERTEBRATEzhLOCATIONzhPERSONzhTHINGzdXW XWyYLLABLE LENGTHEN",
    "ERxTONE-BzdDzdGzdJzdMzdSzdVaOBJECT REPLACEMENT CHARACTERcLIQUE ANGLE OPENING DOWNwUPiHYPHENc",
    "SERVER EYE SYMBOLbCR AMOUNT OF CHECKeBELT BUCKLEfOW TIEfRANCH BANK IDENTIFICATIONeCHAIRfUSTO",
    "MER ACCOUNT NUMBEReDASHfOUBLE BACKSLASHeFORKeHOOKeINVERTED FORKcTAGONAL SIGNdOPUSbDENbFFICE ",
    "BUILDINGbGHAM FEATHER MARKgLETTER AILMnBEITHnCEIRToOLLnDAIRnEABHADHpDHADHpMHANCHOLLnFEARNnGO",
    "RTnIFINoODHADHnLUISnMUINnNGEADALoIONnONNoRnPEITHnRUISnSAILoTRAIFnTINNEnUATHoILLEANNoRgREVERS",
    "ED FEATHER MARKgSPACE MARKcONEKbHM SIGNbIL DRUMbK HAND SIGNbL CHIKI AHADjDIGIT EIGHTpFIVEqOU",
    "RpNINEpONEpSEVENqIXpTHREEqWOpZEROjGAAHLAA TTUDDAAGjLETTER AAJsKsMsWrGrLrNGrTqEDDrNrPrRRqIHrN",
    "YrRrSqLAsArErIrOrUqOBrHrTTrVqUCrDrNNrYjMU TTUDDAGl-GAAHLAA TTUDDAAGjPHAARKAAkUNCTUATION DOUB",
    "LE MUCAADvMUCAADjRELAAcD CHINESE HOOK MARKmITERATION MARKeHUNGARIAN CAPITAL LETTER AzfAzfKzf",
    "MBzfNDzeCLOSE EzeEzfBzfCzgHzgSzfDzfEzfFzfGzgYzfHzfJzfKzfLzgYzfMzgPzfNzgCzgTzh-SHAPED SIGNzgY",
    "zfPzfRzfSzgZzfTzgYzfVzfZzgSzeIzfIzeNIKOLSBURG OEzpUEzeOzfEEzfOzeRUDIMENTA OEzoUEzeSHORT ERze",
    "UzfNKzfSzfUoNUMBER FIFTYxVEvONEy HUNDREDzaTHOUSANDvTENoSMALL LETTER AzdAzdKzdMBzdNDzcCLOSE E",
    "zcEzdBzdCzeHzeSzdDzdEzdFzdGzeYzdHzdJzdKzdLzeYzdMzePzdNzeCzeTzf-SHAPED SIGNzeYzdPzdRzdSzeZzdT",
    "zeYzdVzdZzeSzcIzdIzcNIKOLSBURG OEznUEzcOzdEEzdOzcRUDIMENTA OEzmUEzcSHORT ERzcUzdNKzdSzdUeITA",
    "LIC LETTER AsBEsCHEsDEsEtFtKStLtMtNtRuStSuHuSsHEsItIsKAtEtHEtUsNORTHERN TSEsOsPEtHEsSHEtOUTH",
    "ERN TSEsTEtHEsUtUsVEsYEsZElNUMERAL FIFTYvVEtONEtTENeKEYeNORTH ARABIAN LETTER AINzbLEFzaBEHza",
    "DADzcLzaES-1zd2zd3zaFEHzaGEEMzbHAINzaHAHzbEHzaKAFzbHAHzaLAMzaMEEMzaNOONzaQAFzaREHzaSADzaTAHz",
    "bEHzbHALzcEHzaWAWzaYEHzaZAHzcINsNUMBER ONEzaTENzbWENTYePERMIC LETTER ANsBURsCHERYsDOItZHOIuI",
    "TAsEtFsGAIsHAsItAtEsKOKEsLEIsMENOEsNENOEsOtOsPEEIsREIsSHCHOOIuOOItIIsTAItSIUsUsVERtOOIsYAuTt",
    "ERvIvUtRYtUsZATAtHOIhSIAN NUMBER HUNDREDtONEtTENuWENTYvOmSIGN AsURAMAZDAAzc-2zcHArBAtGAsUUMI",
    "SHrCArDAtHYAAUSHzb-2sIsUrFArGAsUrHArIrJAsIrKAsUrLArMAsIsUrNAsUrPArRAsUrSAsHAsSArTAsHAsUrUrVA",
    "sIrXAsSHAAYATHIYArYArZAmWORD DIVIDERiONAL COMPUTEReSOGDIAN FRACTION ONE HALFmLETTER ALEPHvTE",
    "RNATE AYINuYINtBETHtFINAL ALEPHzaBETHzaHEzaNUNzd WITH VERTICAL TAILzaSADHEzf WITH VERTICAL T",
    "AILzaTAWzd WITH VERTICAL TAILtGIMELtHEvTHtKAPHtLAMEDHtMEMtNUNtPEtRESH-AYIN-DALETHtSADHEvMEKH",
    "uHINtTAWtWAWtYODHtZAYINnIGATURE AYIN-DALETHmNUMBER FIVEuOURtONEw HUNDREDtTENuHIRTYvREEuWENTY",
    "vOgUTH ARABIAN LETTER ALEFzbYNzaBETHzaDALETHzbHADHEzdLETHzaFEzaGHAYNzbIMELzaHEzcTHzaKAPHzbHE",
    "THzaLAMEDHzaMEMzaNUNzaQOPHzaRESHzaSADHEzcMEKHzcTzbHINzaTAWzbETHzbHAWzcETHzaWAWzaYODHzaZAYNsN",
    "UMBER FIFTYzaONEvERIC INDICATOReTURKIC LETTER ORKHON AzbBzbDzbEBzcDzcGzcKzcLzcNzcRzcSzcTzcYz",
    "bGzbLzbNzbQzbRzbSzcHzbTzbYzaBASHzaECzbLTzbMzbNCzcGzcTzcYzbPzbSHzbZzaIzbCzbQzaOzbEzcKzbPzbQzb",
    "TsYENISEI AzcBzcDzcEzdBzdGzdKzdNzeGzdTzdYzcGzcLzcNGzcQzcRzcSHzcTzcYzbEzcCzcNCzdTzdYzcSHzcZzb",
    "IzcQzbOEzdKzcQeUYGHUR COMBINING DOT ABOVEzaBELOWvTWO DOTS ABOVEzfBELOWlLETTER ALEPHsBETHsFIN",
    "AL HETHsGIMEL-HETHsKAPHsLAMEDHtESHsMEMsNUNsPEsRESHsSADHEuMEKHtHINsTAWsWAWsYODHsZAYINlPUNCTUA",
    "TION BARxFOUR DOTSxTWO BARSzcDOTSdER ADULTgMANgWOMANcIVEbM SYMBOLbN WITH EXCLAMATION MARK WI",
    "TH LEFT RIGHT ARROW ABOVEcCOMING AUTOMOBILEjBUSjFIRE ENGINEjPOLICE CARjTAXIcE BUTTON MOUSEeD",
    "OT LEADERiOVER TWO DOTS PUNCTUATIONd-PIECE SWIMSUITcIONbPEN BOOKhXfCENTRE ASTERISKmBLACK STA",
    "RmCROSSmTEARDROP-SPOKED ASTERISKfFILE FOLDERgOLDERfHANDS SIGNfLOCKfMAILBOX WITH LOWERED FLAG",
    "sRAISED FLAGfSUBSEThPERSETe-CIRCUIT-OUTPUT H-TYPE SYMBOLuL-TYPE SYMBOLfOUTLINED RIGHTWARDS A",
    "RROWdRATING SYSTEM COMMANDcHIUCHUScPOSITIONcTICAL DISCm ICONeON KEYbR WITH DOT INSIDEcANGE B",
    "OOKhHEARTfUTANcIGINAL OFdYA AI LENGTH MARKhU LENGTH MARKgDIGIT EIGHTmFIVEnOURmNINEmONEmSEVEN",
    "nIXmTHREEnWOmZEROgFRACTION ONE EIGHTHtHALFtQUARTERtSIXTEENTHpTHREE QUARTERSvSIXTEENTHSgISSHA",
    "RgLETTER AoAoIoUnBAoHAnCAoHAnDAoDApHAoHAnEnGAoHAnHAnIoInJAoHAnKAoHAnLAoLAnMAnNAoGAoNAoYAnOnP",
    "AoHAnRAoHAoRAnSAoHAoSAnTAoHAoTApHAnUoUnVAoOCALIC LwLvRwRnWAnYAoYAgSIGN ANUSVARAmVAGRAHAlCAND",
    "RABINDUlNUKTAlOVERLINElVIRAMAnSARGAgVOWEL SIGN AAsIsUrErIsIrOrUsUrVOCALIC LzbLzaRzbRcNATE LE",
    "FT PARENTHESIShRIGHT PARENTHESIScTHODOX CROSSbSAGE CAPITAL LETTER AwHwIxNvBRAvCHAvDHAvEwHCHA",
    "xKAxPAxTAySAwINvGHAvHAwYAvIvKAwHAwYAvLAvMAvNAvOwINvPAvSAwHAvTAwSAxHAvUvWAvZAwHAgSMALL LETTER",
    " AuHuIvNtBRAtCHAtDHAtEuHCHAvKAvPAvTAwSAuINtGHAtHAuYAtItKAuHAuYAtLAtMAtNAtOuINtPAtSAuHAtTAuSA",
    "vHAtUtWAtZAuHAcCcMANYA DIGIT EIGHToFIVEpOURoNINEoONEoSEVENpIXoTHREEpWOoZEROiLETTER AqAqLEFpB",
    "ApCAYNpDEELqHApEqEpFApGApHApIpJApKAAFqHApLAANpMIINpNUUNpOqOpQAAFpRApSAqHIINpTApUpWAWpXApYAbT",
    "TERdOMAN SIYAQ ALTERNATE NUMBER EIGHTzgFIVEzhOURzk HUNDREDzgNINEzgSEVENzhIXzj HUNDREDzgTENzj",
    " THOUSANDzhHREEzhWOzj THOUSANDoFRACTION ONE HALFzcSIXTHoMARRATANoNUMBER EIGHTzb HUNDREDzcTHO",
    "USANDzbYzc THOUSANDvFIFTYzb THOUSANDxVEza HUNDREDzbTHOUSANDwORTYzb THOUSANDxURza HUNDREDzbTH",
    "OUSANDvNINEza HUNDREDzbTHOUSANDzaTYzc THOUSANDvONEy HUNDREDzaTHOUSANDvSEVENzb HUNDREDzcTHOUS",
    "ANDzbTYzd THOUSANDwIXy HUNDREDzaTHOUSANDyTYzb THOUSANDvTENy THOUSANDwHIRTYzc THOUSANDxREEzb ",
    "HUNDREDzcTHOUSANDwWENTYzc THOUSANDxOy HUNDREDzaTHOUSANDbUNCE SIGNcTBOX TRAYdLINED BLACK STAR",
    "jGREEK CROSSjLATIN CROSSjWHITE STARbVERHEATED FACEeLAPhPING BLACK SQUARESmWHITE AND BLACK SQ",
    "UARESsSQUARESfINEbWLbXbYSTERaPACKAGEcDdDING CHARACTERcGEe FACING UPfWITH CIRCLED TEXTlURLeRe",
    "SdODAcHAWH HMONG CLAN SIGN FAJxHAMzaWJxKHAByOOyWMxLAUJyISxMUASxPHABxTHOJySABzaHEEJzaWBxVAJyW",
    "JxXYOOJxYAJyEEGoONSONANT AUxCAUyHAUxHAUyLAUyNAUxLAUxMAUxNAUyCHAUyKAUyLAUyTHAUzaSAUxPLHAUxQHA",
    "UxRAUxVAUxXAUxYAUnDIGIT EIGHTtFIVEuOURtNINEtONEtSEVENuIXtTHREEuWOtZEROnMARK CIM HOMwKESxHAVw",
    "SOxUAMwTAUMxUBnNUMBER HUNDRED MILLIONSzcSuMILLIONSuTEN BILLIONSyTHOUSANDSxSvRILLIONSnSIGN AV",
    "sCIM CHEEMxUAM TSHOOJwHAIS LUS NTOG NTOGwNRES TOSwPUB DAWBwTSOV ROGxXWVzb CHWVsHLItNUBsIB YA",
    "MsLOSsMEEJ SUABxTSEEBtUSsNQIGtTUJsTAUtHIRD-STAGE HLItXHEEJ CEEVsVOS FEEMwLUBwNRUAwSEEVwTHIAB",
    "yOMxSHAB CEEBsXAUStIABtYEEM FAIByNTXIVyRHOyTOVuOOsZWJ THAJnVOWEL KAABwVvBvIBwVvUBwVvVvWBwVuE",
    "BvEBwVvVuIABwVvBvVuOBvOBwVvVuUABwVvBvVuWBvVcLLASdM BRANCHfDOWN HANDfTREEfUP HANDeS UP TOGETH",
    "EReYRENE LEFT-POINTING FLEURONmTTER ALEPHsYINrBETHrDALETHrFINAL NUNrGIMELrHEtTHrKAPHrLAMEDHr",
    "MEMrNUNrPErQOPHrRESHrSADHEtMEKHsHINrTAWsETHrWAWrYODHrZAYINkNUMBER FIVEsOURrONErTENsHREEsWENT",
    "YtOkRIGHT-POINTING FLEURONcNCAKESdDA FACEcPERCLIPcRACHUTEeGRAPH SEPARATORjOSjUS MARKeLLEL TO",
    "jWITH HORIZONTAL STROKEoTILDE OPERATORdENTHESIZED DIGIT EIGHTuFIVEvOURuNINEuONEuSEVENvIXuTHR",
    "EEvWOoHANGUL CHIEUCHzd AwIEUCzb AzcUvHIEUHzb AvIEUNGzb AvKHIEUKHzd AwIYEOKzc AvMIEUMzb AvNIE",
    "UNzb AvPHIEUPHzd AwIEUPzb AvRIEULzb AvSIOSza AvTHIEUTHzd AwIKEUTzc AoIDEOGRAPH ALLIANCEyCALL",
    "zaONGRATULATIONyEARTHzaIGHTzaNTERPRISEyFESTIVALzaINANCIALzbREzbVEzaOURyHAVEyLABORyMETALzaOON",
    "yNAMEzaINEyONEyREACHzbPRESENTzbSOURCEzcTySELFzbVENzaIXzaOCIETYzaPECIALzaTOCKzbUDYzaUNzbPERVI",
    "SEyTENzaHREEzaWOyWATERzaOODoKOREAN CHARACTER O HUzhJEONoLATIN CAPITAL LETTER AzkBzkCzkDzkEzk",
    "FzkGzkHzkIzkJzkKzkLzkMzkNzkOzkPzkQzkRzkSzkTzkUzkVzkWzkXzkYzkZuSMALL LETTER AziBziCziDziEziFz",
    "iGziHziIziJziKziLziMziNziOziPziQziRziSziTziUziVziWziXziYziZoNUMBER EIGHTEENwLEVENvFIFTEENwOU",
    "RTEENvNINETEENvSEVENTEENwIXTEENvTENwHIRTEENwWELVEyNTYdROTdT ALTERNATION MARKeIAL DIFFERENTIA",
    "LiLINE BACKWARDnDOWNnFORWARDnUPhLY-RECYCLED PAPER SYMBOLeNERSHIP SIGNeY POPPERcSSED SYMBOLfN",
    "GER SHIPeIVE-PULL-DOWN-OUTPUT SYMBOLnUP-OUTPUT SYMBOLePORT CONTROLcU CIN HAU GLOTTAL STOPy F",
    "INALzaVARIANTmLETTER AtBAtCAuHAtDAtEtFAuINAL KzaLzaMzaNzbGzaPzaTzaWzaYtGAtHAtIuAtKAuHAtLAtMA",
    "tNAuGAtOtPAuHAtRAtSAtTAuHAtUuAtVAtZAnOW-FALLING TONEzd FINALzeLONGzi FINALmMID-LEVEL TONEzb ",
    "FINALzcLONG FINALmRISING TONEx FINALyLONGzd FINALmSANDHI GLOTTAL STOPzg FINALtTONEx FINALyLO",
    "NGzd FINALcW PRINTSbDFcIbEACE SYMBOLeHeOCKdNUTSdRcDESTRIANcN OVER STAMPED ENVELOPEdCILdGUINd",
    "SIVE FACEdTAGRAMcOPLE HUGGINGcR MILLE SIGNeSIGNeTEN THOUSAND SIGNdCENT SIGNdFORMING ARTSdMAN",
    "ENT PAPER SIGNdPENDICULARn WITH SdSEVERING FACEeON BOWING DEEPLYhCLIMBINGhDOING CARTWHEELhFR",
    "OWNINGhIN LOTUS POSITIONkSTEAMY ROOMhRAISING BOTH HANDS IN CELEBRATIONhWITH BALLnLOND HAIRmC",
    "ROWNmFOLDED HANDSmHEADSCARFmPOUTING FACEgAL COMPUTERePECTIVEcSETA SIGNdO SIGNcTRI DISHbHAGS-",
    "PA DOUBLE HEAD MARKjLETTER ArLTERNATE YArSPIRATED FAqBAqCAsNDRABINDUrHAqDArDArZAqErEqFAqGArG",
    "AqHAqIqJAqKArHAqLAqMAqNArGArNArYAqOqPArHAqQAqRAqSArHArMALL AqTArHArSAsHArTAsHAqUqVOICED HAvL",
    "ESS SHAqWAqXAqYAqZArHAjMARK DOUBLE SHADoSHADjSINGLE HEAD MARKkUBJOINED LETTER RAzbWAzbYAlPER",
    "FIXED LETTER RAdISTOS DISC SIGN ARROWtBEEwHIVEuOOMERANGvWuULLS LEGtCAPTIVEvRPENTRY PLANEvTuH",
    "ILDuLUBuOLUMNvMBxINING OBLIQUE STROKEtDOLIUMvVEtEAGLEtFLUTEtGAUNTLETuRATERtHELMETuIDEuORNtLI",
    "DvLYtMANACLESvTTOCKtOX BACKtPAPYRUSuEDESTRIANuLANE TREEvUMED HEADtRAMuOSETTEtSAWuHIELDwPuLIN",
    "GuMALL AXEuTRAINERtTATTOOED HEADuIARAuUNNYtVINEtWAVY BANDuOMANcILIPPINE DOUBLE PUNCTUATIONlS",
    "INGLE PUNCTUATIONcOENICIAN LETTER AINtLFsBETsDELTsGAMLsHEuTsKAFsLAMDsMEMsNUNsPEsQOFsROSHsSAD",
    "EtEMKtHINsTAUtETsWAUsYODsZAIlNUMBER ONEv HUNDREDsTENtHREEtWENTYuOlWORD SEPARATORdLUSbICKeUP ",
    "TRUCKcEcGd FACEeNOSEcLCROW SIGNdE OF POOdLcNATAdCHED FINGERSfING HANDdE DECORATIONeAPPLEdWHE",
    "EL STARcSCESdTOLcTCHFORKj WITH TEE TOPbLACARDeE OF INTEREST SIGNjWORSHIPdNCK CONSTANTp OVER ",
    "TWO PIdYGROUND SLIDEeING CARD ACE OF CLUBSuDIAMONDSuHEARTSuSPADESnBACKoLACK JOKERnEIGHT OF C",
    "LUBSwDIAMONDSwHEARTSwSPADESnFIVE OF CLUBSvDIAMONDSvHEARTSvSPADESoOOLpUR OF CLUBSvDIAMONDSvHE",
    "ARTSvSPADESnJACK OF CLUBSvDIAMONDSvHEARTSvSPADESnKING OF CLUBSvDIAMONDSvHEARTSvSPADESoNIGHT ",
    "OF CLUBSxDIAMONDSxHEARTSxSPADESnNINE OF CLUBSvDIAMONDSvHEARTSvSPADESnQUEEN OF CLUBSwDIAMONDS",
    "wHEARTSwSPADESnRED JOKERnSEVEN OF CLUBSwDIAMONDSwHEARTSwSPADESoIX OF CLUBSuDIAMONDSuHEARTSuS",
    "PADESnTEN OF CLUBSuDIAMONDSuHEARTSuSPADESoHREE OF CLUBSwDIAMONDSwHEARTSwSPADESoRUMP-1u0u1u2u",
    "3u4u5u6u7u8u9t2u0u1t3t4t5t6t7t8t9oWO OF CLUBSuDIAMONDSuHEARTSuSPADESnWHITE JOKERcDcUdNGERdS ",
    "SIGNj ABOVE EQUALS SIGNkIN LEFT HALF CIRCLEnRIGHT HALF CIRCLEnTRIANGLEkWITH BLACK TRIANGLEpC",
    "IRCUMFLEX ACCENT ABOVEpDOT BELOWpSMALL CIRCLE ABOVEqUBSCRIPT TWOpTILDE ABOVEvBELOWe-MINUS SI",
    "GNdTOf FORM FIVEmOURlTHREEmWObMbOCKET CALCULATORcLICE CARkS REVOLVING LIGHThOFFICERcODLEcP D",
    "IRECTIONAL FORMATTINGqISOLATEdCORNcRTABLE STEREOcSEIDONdITION INDICATORdTAL HORNhMARKl FACEe",
    "BOXcT OF FOODdABLE WATER SYMBOLeTOdTED PLANTcUCHdLTRY LEGdND SIGNdRING LIQUIDdTING CAT FACEi",
    "FACEcWER ON SYMBOLi-OFF SYMBOLgSLEEP SYMBOLhYMBOLbRAYER BEADScECEDESi ABOVE ALMOST EQUAL TOp",
    "EQUALS SIGNpNOT ALMOST EQUAL TOtEQUAL TOpSINGLE-LINE EQUALS SIGNzcNOT EQUAL TOjBUT NOT EQUIV",
    "ALENT TOjOR EQUAL TOpIVALENT TOjUNDER RELATIONdGNANT MANjPERSONjWOMANdSCRIPTION TAKEeENTATIO",
    "N FORM FOR VERTICAL COLONziMMAzgEM DASHzhN DASHzhXCLAMATION MARKzgHORIZONTAL ELLIPSISzgIDEOG",
    "RAPHIC COMMAzsFULL STOPzgLEFT ANGLE BRACKETzlBLACK LENTICULAR BRACKETzlCORNER BRACKETzmURLY ",
    "BRACKETzlDOUBLE ANGLE BRACKETzlPARENTHESISzlSQUARE BRACKETzlTORTOISE SHELL BRACKETzlWHITE CO",
    "RNER BRACKETzrLENTICULAR BRACKETzhOW LINEzgQUESTION MARKzgRIGHT ANGLE BRACKETzmBLACK LENTICU",
    "LAR BRACKETzmCORNER BRACKETznURLY BRACKETzmDOUBLE ANGLE BRACKETzmPARENTHESISzmSQUARE BRACKET",
    "zmTORTOISE SHELL BRACKETzmWHITE CORNER BRACKETzsLENTICULAR BRACKETzzhKCETzgSEMICOLONzgTWO DO",
    "T LEADERzgWAVY LOW LINEdTZELdVIOUS PAGEcIMEdNCEgSSeT SCREEN SYMBOLfERh ICONdVACY MESSAGEfTE ",
    "USE ONEmTWOl-1m2cOBING CANEdHIBITED SIGNdJECTIVEdPERTY LINEeORTIONkAL TOdSERPINAbSALTER PAHL",
    "AVI FOUR DOTS WITH CROSSzgDOTqLETTER ALEPHxBETHxDALETHxGIMELxHEzaTHxKAPHxLAMEDHxMEM-QOPHxNUN",
    "xPExSADHEzaMEKHyHINxTAWxWAW-AYIN-RESHxYODHxZAYINqNUMBER FOURxONEzb HUNDREDxTENyHREEyWENTYzaO",
    "qSECTION MARKqTURNED SECTION MARKbU1c2cBLIC ADDRESS LOUDSPEAKERcNCTUATION SPACEgS ELEVATUS M",
    "ARKcRPLE HEARTdSEcSHPINcT LITTER IN ITS PLACE SYMBOLaQUADRANT LOWER LEFTpRIGHTjUPPER LEFTt A",
    "ND LOWER LEFT AND LOWER RIGHTzfRIGHTyUPPER RIGHT AND LOWER LEFTzvRIGHTpRIGHTu AND LOWER LEFT",
    "zk AND LOWER RIGHTfUPLE INTEGRAL OPERATORkPRIMEdRTER NOTEdTERNION INTEGRAL OPERATORcESTION E",
    "XCLAMATION MARKjMARKiED EQUAL TOcINCUNXcOTATION MARKaRABBITg FACEcCCOONdING CARhMOTORCYCLEcD",
    "ICAL SYMBOL BOTTOMeOf BUTTONfACTIVE SIGNcILWAY CARiTRACKdNeBOWdSED BACK OF HANDhCOMMAhDOTkTE",
    "D INTERPOLATION MARKERhFISThHANDl WITH FINGERS SPLAYEDrPART BETWEEN MIDDLE AND RING FINGERSh",
    "INTERPOLATION MARKERhMC SIGNiD SIGNiR SIGNhSQUAREcMcTdIOcZORbECEIPTdORD SEPARATORdREATIONAL ",
    "VEHICLEdYCLED PAPER SYMBOLgING SYMBOL FOR GENERIC MATERIALSvTYPE-1 PLASTICSzb2 PLASTICSzb3 P",
    "LASTICSzb4 PLASTICSzb5 PLASTICSzb6 PLASTICSzb7 PLASTICScD APPLEeGIFT ENVELOPEcFERENCE MARKcG",
    "IONAL INDICATOR SYMBOL LETTER AziBziCziDziEziFziGziHziIziJziKziLziMziNziOziPziQziRziSziTziUz",
    "iVziWziXziYziZeSTERED SIGNcJANG CONSONANT SIGN HwNxGwRhLETTER AoBAoCAoDAoGAoHAoJAoKAoLAoMApB",
    "AoNApDApGAqGApYAqJAoPAoRAoSAoTAoWAoYAhSECTION MARKhVIRAMAiOWEL SIGN AItUsEtAtUsIsOsUcLIEVED ",
    "FACEcMINDER RIBBONcPLACEMENT CHARACTERcSPONSEdTRICTED LEFT ENTRY-1w2fOOMcTURN LEFThRIGHThSYM",
    "BOLcVERSE CHECKER BOARDiINDEXiLIGHT FOUR POINTED PINWHEEL STARkNE FEEDiSOLIDUSp OPERATORqPRE",
    "CEDING SUBSETqWITH HORIZONTAL STROKEiTILDE OPERATOR ABOVE LEFTWARDS ARROWzeRIGHTWARDS ARROWh",
    "D ANGLEo WITH UNDERBARjCOMMAjDOUBLE PRIMEv QUOTATION MARKqSTROKE NOT SIGNjEMPTY SETjFORKED P",
    "ARAGRAPHOSjHAND WITH MIDDLE FINGER EXTENDEDjNOT SIGNjPILCROW SIGNkRIMEjQUESTION MARKjRAISED ",
    "HAND WITH FINGERS SPLAYEDkIGHT ANGLEkOTATED FLORAL HEART BULLETjSANS-SERIF CAPITAL LkEMICOLO",
    "NjTHUMBS DOWN SIGNqUP SIGNkILDEo EQUALSkRIPLE PRIMEjVICTORY HANDdOLVING HEARTSbHINOCEROSbIcA",
    "L SIGNcBBONg ARROW DOWN LEFTsRIGHTnLEFT DOWNsUPnRIGHT DOWNtUPnUP LEFTqRIGHTcCE BALLfCRACKERc",
    "FLEcGHT AND LOWER ONE EIGHTH BLOCKkUPPER ONE EIGHTH BLOCKiGER BUBBLEjLEl BRACKETt WITH DOTmD",
    "OTTED SUBSTITUTION MARKERmSUBSTITUTION MARKERmVARIANT WITH SQUAREmWITH ARCrDOWNWARDS ZIGZAG ",
    "ARROWhRC GREATER-THAN BRACKETiROW WITH CIRCLED PLUSrSMALL CIRCLEgBLACK LENTICULAR BRACKETmTO",
    "RTOISE SHELL BRACKETgCEILINGhORNER BRACKEThURLY BRACKETt LOWER HOOKuMIDDLE PIECEuUPPER HOOKg",
    "DOTTED SUBSTITUTION BRACKETiUBLE ANGLE BRACKEToRROW WITH ROUNDED HEADnPARENTHESISnQUOTATION ",
    "MARKnWIGGLY FENCEgFISH TAILiVE EIGHTHS BLOCKhLOORgHALF BLACK CIRCLErSTARnOCKlFOLDERlMEDIUM S",
    "HADElRUNNING MANiND TELEPHONE RECEIVERgLOW PARAPHRASE BRACKETgNORMAL FACTOR SEMIDIRECT PRODU",
    "CTgONE EIGHTH BLOCKkQUARTER BLOCKhPEN SQUARED DOThUTER JOINgPARENTHESISr EXTENSIONsLOWER HOO",
    "KsUPPER HOOKgRAISED OMISSION BRACKETgS-SHAPED BAG DELIMITERhEMIDIRECT PRODUCTiVEN EIGHTHS BL",
    "OCKhIDEWAYS U BRACKETiNGLE QUOTATION MARKhPEAKERn WITH ONE SOUND WAVEtTHREE SOUND WAVESjECH ",
    "BUBBLEhQUARE BRACKETu EXTENSIONvLOWER CORNERvUPPER CORNERvWITH DOUBLE STROKEzbQUILLzbSTROKEz",
    "bTICK IN BOTTOM CORNERzjTOP CORNERzbUNDERBARhUBSTITUTION BRACKETgTACKhHIRD WHITE RIGHT POINT",
    "ING INDEXiOUGHT BUBBLEiREE EIGHTHS BLOCKmQUARTERS BLOCKhORTOISE SHELL BRACKEThRANSPOSITION B",
    "RACKETiIANGLEo ABOVE LEFT TRIANGLEmULAR ONE QUARTER BLOCKgVERTICAL BAR WITH QUILLqOX LINEgWH",
    "ITE CORNER BRACKETnURLY BRACKETmLENTICULAR BRACKETmPARENTHESISmSQUARE BRACKETmTORTOISE SHELL",
    " BRACKEThIGGLY FENCEf-FACING ARMENIAN ETERNITY SIGNnFISTnSVASTI SIGNy WITH DOTSgHANDED INTER",
    "LACED PENTAGRAMgPOINTING ANGLE BRACKETpCURVED ANGLE BRACKETpDOUBLE ANGLE QUOTATION MARKpMAGN",
    "IFYING GLASSgSHADED WHITE RIGHTWARDS ARROWhIDE ARC CLOCKWISE ARROWgTO-LEFT EMBEDDINGoISOLATE",
    "oMARKoOVERRIDEfHAND INTERIOR PRODUCTfWARDS ARROWq ABOVE ALMOST EQUAL TOxREVERSE ALMOST EQUAL",
    " TOzgTILDE OPERATORxSHORT LEFTWARDS ARROWxTILDE OPERATORsND UPPER AND LOWER ONE EIGHTH BLOCK",
    "rFROM BARza TO BLACK DIAMONDrOVER LEFTWARDS ARROWrTHROUGH GREATER-THANzaSUPERSETzaXsO BARvLA",
    "CK DIAMONDrWITH CORNER DOWNWARDSwDOTTED STEMyUBLE VERTICAL STROKEwEQUILATERAL ARROWHEADwHOOK",
    "wLARGE TRIANGLE ARROWHEADxOOPwMEDIUM TRIANGLE ARROWHEADwNOTCHED TAILwPLUS BELOWwSMALL EQUILA",
    "TERAL ARROWHEADzdTRIANGLE ARROWHEADxTROKEwTAILzb WITH DOUBLE VERTICAL STROKEzhVERTICAL STROK",
    "ExIP DOWNWARDSzbUPWARDSwVERTICAL STROKEq-TAILlBACK-TILTED SHADOWED WHITE ARROWmLACK ARROWrCI",
    "RCLED WHITE ARROWmOTTOM SHADED WHITE ARROWlCOMPRESSED ARROWlDASHED ARROWmOUBLE ARROWx FROM B",
    "ARyWITH STROKEzeVERTICAL STROKEx-TAILsDASH ARROWlFINGER-POST ARROWmRONT-TILTED SHADOWED WHIT",
    "E ARROWlHANDnRPOON OVER LEFTWARDS HARPOONtWITH BARB DOWN ABOVE LEFTWARDS HARPOON WITH BARB D",
    "OWNzjBELOW LONG DASHzjFROM BARzjTO BARziWARDSzeUP ABOVE LEFTWARDS HARPOON WITH BARB UPzoONG ",
    "DASHznRIGHTWARDS HARPOON WITH BARB DOWNzhFROM BARzhTO BARzgWARDSmEAVY ARROWrCOMPRESSED ARROW",
    "lLEFT-SHADED WHITE ARROWlOPEN-HEADED ARROWlPAIRED ARROWSlQUADRUPLE ARROWlRIGHT-SHADED WHITE ",
    "ARROWmOCKETlSANS-SERIF ARROWmQUARED ARROWoIGGLE ARROWlTOP SHADED WHITE ARROWmRIANGLE ARROWHE",
    "ADt-HEADED ARROWzh OVER LEFTWARDS TRIANGLE-HEADED ARROWziTO BARziWITH BOLD SHAFTznDOUBLE HOR",
    "IZONTAL STROKEzuVERTICAL STROKEznHEAVY SHAFTznLONG TIP DOWNWARDSzwUPWARDSznMEDIUM SHAFTznNAR",
    "ROW SHAFTznVERY HEAVY SHAFTzcDASHED ARROWzcPAIRED ARROWSoPLE ARROWsDASH ARROWmWO HEADED ARRO",
    "Wo-HEADED ARROW FROM BARzdWITH DOUBLE VERTICAL STROKEziTAILzm WITH DOUBLE VERTICAL STROKEzsV",
    "ERTICAL STROKEzjRIANGLE ARROWHEADSziVERTICAL STROKEwTRIPLE DASH ARROWlWAVE ARROWmHITE ARROWw",
    " FROM WALLxWITHIN TRIANGLE ARROWHEADcNGe ABOVEfBUOYfEQUAL TOfIN EQUAL TOfOPERATORfPOINTeED P",
    "LANETeING BELLcSING DIAGONAL CROSSING FALLING DIAGONALzaSOUTH EAST ARROWbLEcIcMcObOASTED SWE",
    "ET POTATOcBOT FACEcCKeETcLL OF PAPEReED-UP NEWSPAPERfR COASTERhSKATEeING ON THE FLOOR LAUGHI",
    "NGcMAN AS SIGNgCENTURIAL SIGNgDENARIUS SIGNhIMIDIA SEXTULA SIGNhUPONDIUS SIGNgNUMERAL EIGHTp",
    "LEVENoFIFTYt EARLY FORMuTHOUSANDqVEs HUNDREDtTHOUSANDpOURoNINEoONEr HUNDREDza THOUSANDsTHOUS",
    "ANDzb C DoREVERSED ONE HUNDREDoSEVENpIXr LATE FORMoTENr THOUSANDpHREEpWELVEqOgQUINARIUS SIGN",
    "gSEMUNCIA SIGNiSTERTIUS SIGNiXTANS SIGNkULA SIGNhILIQUA SIGNgUNCIA SIGNcOSTERcSEeTTEcTATED C",
    "APITAL QiFLORAL HEART BULLETiHEAVY BLACK HEART BULLETiLIGHT FOUR POINTED BLACK CUSPiWHITE FO",
    "UR POINTED CUSPcUND PUSHPINgTARGETfED SYMBOL FOR CAItFUtLUtSHOUvUANGXItXIcWBOATbSbUBLE SIGNc",
    "GBY FOOTBALLcLE-DELAYEDcMI DIGIT EIGHTlFIVEmOURlNINElONElSEVENmIXlTHREEmWOfFRACTION ONE HALF",
    "sQUARTERsTHIRDoTWO THIRDSfNUMBER EIGHT HUNDREDrYmFIFTYoVE HUNDREDnORTYoUR HUNDREDmNINE HUNDR",
    "EDqTYmONE HUNDREDmSEVEN HUNDREDrTYnIX HUNDREDpTYmTENnHIRTYoREE HUNDREDnWENTYoO HUNDREDcNIC A",
    "RLAUG SYMBOLgBELGTHOR SYMBOLgCROSS PUNCTUATIONgLETTER AC AoESCoLGIZ EOLHXoNSUZ AnBERKANAN BE",
    "ORC BJARKAN BnCoALCoEALCpNoWEORTHnDoAGAZ DAEG DoOTTED-LuNuPnEoARoHWAZ EH EoNGoTHnFEHU FEOH F",
    "E FoRANKS CASKET ACzdESCzcEHzcISzcOSnGoARoEBO GYFU GpRnHAEGL HpGLAZ HnICELANDIC-YRoNGqWAZoOR",
    "oSAZ IS ISS IoWAZ EOHnJERAN JnKoAUN KrAnLAUKAZ LAGU LOGR LoONG-BRANCH-AR AEzaHAGALL HzaMADR ",
    "MzaOSS OzaYRnMANNAZ MAN MnNAUDIZ NYD NAUD NnOoEoNoOoPEN-PoS OoTHALAN ETHEL OnPERTHO PEORTH P",
    "nQnRAIDO RAD REID RnSHpORT-TWIG-AR AyBJARKAN ByHAGALL HyMADR MyNAUD NyOSS OySOL SyTYR TyYRoI",
    "GEL LONG-BRANCH-SOL SoOWILO SoTANnTHURISAZ THURS THORNoIWAZ TIR TYR TnURUZ UR UnVnWoUNJO WYN",
    "N WnXnYoRnZgMULTIPLE PUNCTUATIONgSINGLE PUNCTUATIONgTVIMADUR SYMBOLdNEReING SHIRT WITH SASHc",
    "PEE SIGNcSSIAN ASTROLOGICAL SYMBOL BINOVILEzdNOVILEzdQUINTILEzdSENTAGONzdTREDECILEzdVIGINTIL",
    "EaS IN TRIANGLEbAFETY PINhVESTcGITTARIUScILBOATcKE BOTTLE AND CUPcLT SHAKEReIREdUTING FACEcM",
    "ARITAN ABBREVIATION MARKkLETTER ALAFrBAAsITrDALATrFIrGAMANrINsTsYrKAAFrLABATrMIMrNUNrQUFrRIS",
    "HrSHANsINGAATrTAAFsITsSAADIYrYUTrZENkMARK DAGESHpEPENTHETIC YUTpINr-ALAFpNEQUDAApOCCLUSIONlO",
    "DIFIER LETTER EPENTHETIC YUTzbIzbSHORT AkPUNCTUATION AFSAAQxNGEDyNAAUxRKAANUxTMAAUwBAUwMELOD",
    "IC QITSAwNEQUDAAwQITSAwSHIYYAALAAxOF MASHFAATwTURUwZAEFxIQAAkVOWEL SIGN AwAvEvIvLONG AzcAzbE",
    "zbIzbUvOwVERLONG AzgAvSHORT AwUKUNvUcNDWICHdS-SERIF HEAVY DOUBLE COMMA QUOTATION MARK ORNAME",
    "NTyTURNED COMMA QUOTATION MARK ORNAMENTrLOW DOUBLE COMMA QUOTATION MARK ORNAMENTlINTERROBANG",
    " ORNAMENTcRIcTELLITEj ANTENNAdURNcURASHTRA CONSONANT SIGN HAARUlDANDAmIGIT EIGHTrFIVEsOURrNI",
    "NErONErSEVENsIXrTHREEsWOrZEROmOUBLE DANDAlLETTER AtAtItUsBAtHAsCAtHAsDAtDAuHAtHAsEtEsGAtHAsH",
    "AsItIsJAtHAsKAtHAsLAtLAsMAsNAtGAtNAtYAsOtOsPAtHAsRAsSAtHAtSAsTAtHAtTAuHAsUtUsVAtOCALIC LzcLz",
    "bRzcRsYAlSIGN ANUSVARAqCANDRABINDUqVIRAMAsSARGAlVOWEL SIGN AAxIxUwExEwIxIwOxOwUxUwVOCALIC Lz",
    "gLzfRzgReOPODcXOPHONEbCALESdRFcHOOLg SATCHELcIcOOTERdRPIONgUScREENeWDRIVERdIPT CAPITAL BpEpF",
    "pHpIpLpMpPpRhLIGATURE ET ORNAMENThSMALL EnGnLnOdOLLdUPLEbEALdTcCOND PLACE MEDALdTION SIGNeOR",
    "cDNAcE-NO-EVIL MONKEYdDLINGcGMENThED DIGIT EIGHTqFIVErOURqNINEqONEqSEVENrIXqTHREErWOqZEROcLF",
    "IEcMICOLONeDIRECT PRODUCT WITH BOTTOM CLOSEDeSEXTILEcPARATED SYMBOLcRIOUS FACE WITH SYMBOLS ",
    "COVERING MOUTHdVICE MARKcSAME DOTdQUIQUADRATEcT MINUSeTRANSMIT STATEcWING NEEDLEcXTILEbGCbHA",
    "DOWED WHITE CIRCLEpLATIN CROSSpSTARdLLOW PAN OF FOODdMROCKdRADA ABBREVIATION SIGNiCONTINUATI",
    "ON SIGNiDANDAjIGIT EIGHToFIVEpOURoNINEoONEoSEVENpIXoTHREEpWOoZEROjOUBLE DANDAiEKAMjXTRA SHOR",
    "T VOWEL MARKiHEADSTROKEiLETTER AqAqIqUpBAqHApCAqHApDAqDArHAqHApEpGAqHApHApIqIpJAqHApKAqHApLA",
    "qLApMApNAqGAqNAqYApOpPAqHApRApSAqHAqSApTAqHAqTArHApUqUpVAqOCALIC LyLxRyRpYAiOMiSANDHI MARKjE",
    "CTION MARK-1v2kPARATORjIGN ANUSVARAoVAGRAHAnCANDRABINDUnINVERTED CANDRABINDUnJIHVAMULIYAnNUK",
    "TAnSIDDHAMnUPADHMANIYAnVIRAMApSARGAjUTRA MARKiVOWEL MODIFIER MARKoSIGN AAuIuUtEtIuItOtPRISHT",
    "HAMATRA EtUuUtVOCALIC LzdLzcRzdReKdVED ICEeIAN LETTER ADOqGEqHqIRqRErRAYqSHqWEpBIBpCHURCHpDE",
    "ADpEARrTqGGqRRpFEEpGAGpHA-HAqUNGpIANqCEqFpJUDGEpKICKpLOLLpMEASUREqIMEpNUNpOAKqILqNqOZEqRqUTp",
    "PEEPpROARpSOqUREpTHEYrIGHqOTpUPpVOWpWOErOLpYEArWpZOOcEEPcIELDdFT INgOUTdNTO SHRINEdPcOCKED F",
    "ACE WITH EXPLODING HEADdOTING STARdPPING BAGSjTROLLEYdRT BACKSLANTED SOUTH ARROWhENT ARROW P",
    "OINTING DOWNWARDS THEN NORTH EASTgDOWN TACKp WITH OVERBARgLEFT TACKgRIGHTWARDS ARROW ABOVE L",
    "EFTWARDS ARROWgSLANTED NORTH ARROWgUP TACKn ABOVE SHORT DOWN TACKoWITH UNDERBARfCAKEfHAND FO",
    "RMAT CONTINUING OVERLAPrDOWN STEPrLETTER OVERLAPrUP STEPfSdULDERED OPEN BOXdWERcRIMPdUGcUFFL",
    "E PRODUCTcYbIcDDHAM DANDAjOUBLE DANDAiEND OF TEXT MARKiLETTER AqAqIqLTERNATE UqUpBAqHApCAqHA",
    "pDAqDArHAqHApEpGAqHApHApIqIpJAqHApKAqHApLApMApNAqGAqNAqYApOpPAqHApRApSAqHAqSApTAqHArREE-CIRC",
    "LE ALTERNATE IqTArHAqWO-CIRCLE ALTERNATE IzmIpUqUpVAqOCALIC LyLxRyRpYAiREPETITION MARK-1y2y3",
    "iSECTION MARK DOUBLE RINGzh WITH RAYSvWITH CIRCLES AND FOUR ENCLOSURESznRAYSznTWO ENCLOSURES",
    "zbDOUBLE CRESCENTSzbQUADRUPLE CRESCENTSzbRAYS AND DOTTED CRESCENTSzrDOUBLE CRESCENTSzrTRIPLE",
    " CRESCENTSzbSEPTUPLE CRESCENTSzbTRIDENT AND DOTTED CRESCENTSznU-SHAPED ORNAMENTSzePLE CRESCE",
    "NTSkPARATOR BARsDOTjIGN ANUSVARAnCANDRABINDUnNUKTAnSIDDHAMnVIRAMApSARGAiVOWEL SIGN AAuIuLTER",
    "NATE UzfUuUtEtIuItOtUuUtVOCALIC RzdRdEWAYS BLACK DOWN POINTING INDEXpLEFT POINTING INDEXpRIG",
    "HT POINTING INDEXpUP POINTING INDEXjWHITE DOWN POINTING INDEXpLEFT POINTING INDEXpRIGHT POIN",
    "TING INDEXpUP POINTING INDEXcGN OF THE HORNSeWRITING AIR BLOW SMALL ROTATIONSuING OUTqSUCK S",
    "MALL ROTATIONSuING INmBREATH EXHALEtINHALEoUSH BETWEENsMULTIPLEsSINGLEmCHEEKS NEUTRALtPUFFED",
    "tSUCKEDnOLONoMMAmDREAMY EYEBROWS DOWN NEUTRALzdNEUTRAL DOWNzlUPzdUP NEUTRALnYNAMIC ARROWHEAD",
    " LARGEzfSMALLuEVERY OTHER TIMEuFASTuGRADUALuRELAXEDuSIMULTANEOUSzh ALTERNATINGvLOWuTENSEmEAR",
    "SnXCITEMENTnYE BLINK MULTIPLEwSINGLEqWINKpBROWS STRAIGHT DOWNzfNEUTRALzfUPpGAZE-FLOORPLANE C",
    "URVEDzgSTRAIGHTzo ALTERNATINGzpDOUBLEuWALLPLANE CIRCLINGzgURVEDzfSTRAIGHTzn ALTERNATINGzoDOU",
    "BLEpLASHES DOWNwFLUTTERINGwUPpS CLOSEDrHALF CLOSEDwOPENrOPENrSQUEEZEDrWIDE OPENvNING MOVEMEN",
    "TmFACE DIRECTION POSITION NOSE FORWARD TILTINGzqUP OR DOWNzzb TILTINGnILL MODIFIER-2zb3zb4zb",
    "5zb6oNGERnLICK LARGE MULTIPLEySINGLEsSEQUENTIALtMALL MULTIPLEySINGLEoOORPLANE SHOULDER HIP M",
    "OVEnOREHEAD CONTACTvNEUTRALvWRINKLEDnULL STOPmGRASP BETWEENsMULTIPLEsSINGLEmHAIRoND-ANGLEw I",
    "NDEXzd MIDDLE LITTLEzlRINGzeRING LITTLEzp OUTzeTHUMBzj INzkOUTxLITTLE INDEXzk THUMB INDEX TH",
    "UMBzzd OUTzfUPxMIDDLE RING LITTLEzq INzrOUTxRING DOWN MIDDLE THUMB INDEX CROSSzdLITTLErCIRCL",
    "Ex INDEXze BENTzfHINGEzfMIDDLEzl CROSS LITTLEzrEDzmLITTLEzmRINGzmTHUMBzfRING LITTLEyLITTLE I",
    "NDEXzgUPyMIDDLE RING LITTLEzr BENTzgUPyRING LITTLEsLAWv FOUR FINGERS CONJOINEDwINDEX THUMB C",
    "URVE THUMB INSIDEwMIDDLE RING LITTLE CONJOINEDzza SIDEwNO THUMBwTHUMB FORWARDzdSIDEsUPu FIVE",
    " FINGERS SPREADzp OPENvINDEXzb RING LITTLEzcTHUMBzh OPENvMIDDLE RING LITTLEvNO THUMBvOPENza ",
    "NO THUMBzbTHUMB FORWARDzhSIDEvTHUMB FORWARDzcSIDEtRLICUEza INDEX RING LITTLE ONzbMIDDLE RING",
    " LITTLE ONzbOPENrFISTv FOUR FINGERS CONJOINED BENTwHEELwINDEXzc BENTzh OVER MIDDLEzdCUPPEDzd",
    "HINGEDzj LOWzkMIDDLE UPzt THUMB SIDEzdMIDDLEzj BENTzo THUMB STRAIGHTzkCONJOINEDzt CUPPEDzzb ",
    "THUMB FORWARDzuHINGEDzzb THUMB SIDEzuINDEX BENTzuMIDDLE BENTzuTHUMB FORWARDzzbSIDEzzf BENTzz",
    "gCONJOINEDzlROSS LITTLEzpEDzr THUMB SIDEzkHINGEDzq SPREAD THUMB SIDEzkLITTLEzkRAISED KNUCKLE",
    "SzlINGzo BENTzpCONJOINEDzkSTRAIGHT THUMB BENTzkTHUMBzp ANGLEDzw OUTzqBENTzqCIRCLEDzrONJOINED",
    " HINGEDzrUPPEDzqHINGEDzrOOKEDzkUP SPREAD THUMB FORWARDzdRAISED KNUCKLEzeING LITTLEzdTHUMB AN",
    "GLED IN MIDDLE UPzqOUT MIDDLE UPzjCIRCLEzpD MIDDLE UPzkUPPED MIDDLE UPzlRLICUEzmVE THUMB INS",
    "IDEzvUNDERzjFORWARD INDEX BENTzxSTRAIGHTzjHOOKznED MIDDLE HINGEDzxUPzjSIDEzn BOTH BENTzoINDE",
    "X BENTzuHINGEzoTHUMB BENTzuCONJOINEDzuDIAGONALzdUP MIDDLE HINGEDzt THUMB CONJOINEDzzbSIDEwLI",
    "TTLE BENTzeDOWNzi OTHERS CIRCLEDzjRIPPLE CURVEDzqSTRAIGHTzeINDEXzj THUMBzeRAISED KNUCKLEzeTH",
    "UMBzfOUCHES THUMBzeUPwMIDDLE BENT OVER INDEXzeDOWNzeLITTLEzeRAISED KNUCKLEzfING LITTLEzeTHUM",
    "B ANGLED INDEX UPzrOUT INDEX CROSSEDzzcUPzkCIRCLED INDEX HINGEDzyUPzlUPPED INDEX UPzkHOOKED ",
    "INDEX UPzkLITTLEzeUPzg THUMB SIDEwRING DOWNzcINDEXzcLITTLEzcMIDDLEzi CONJOINEDzjRAISED KNUCK",
    "LESzcRAISED KNUCKLEzcTHUMBzcUPwTHUMBzc BETWEEN INDEX MIDDLEzx STRAIGHTzlMIDDLE RINGzlRING LI",
    "TTLEzdFORWARDzdHEELzdOVER FOUR RAISED KNUCKLESziTWO FINGERSzdSIDE BENTziCONJOINEDziDIAGONALz",
    "dUNDER FOUR FINGERSzjINDEX BENTzjLITTLE UPzjTHREE FINGERSzkWO FINGERSsLATv BETWEEN PALM FACI",
    "NGSwFIVE FINGERS SPREADzq BENTzrFOUR BENTzrHINGEDzx NO THUMBzyTHUMB SIDEzrTHUMB FORWARDxOUR ",
    "FINGERSzj BENTzkCONJOINEDzt SPLITzkHINGEDwHEELzb FIVE FINGERS SPREADzv BENTzwFOUR BENTzcTHUM",
    "B SIDEwSPLIT CENTREzj THUMB SIDEzu BENTzdINDEX THUMB SIDEzdLITTLEwTHUMB BENTzdFORWARDzdSIDEr",
    "HINGEw FIVE FINGERS SPREAD OPENyOUR FINGERS CONJOINEDxINDEXzd HINGEDzeMIDDLE LITTLEzlRINGzp ",
    "CONJOINEDzeRING LITTLEzeTHUMBzj LARGEzkOPENzkSIDEzlMALLxLITTLEze INDEXzk THUMBzfTHUMBxMIDDLE",
    "ze RING LITTLExNO THUMBxOPENzc NO THUMBzdTHUMB FORWARDzjSIDExRINGzc DOWN INDEX THUMB HOOK MI",
    "DDLExSMALLxTHUMB BETWEEN MIDDLE RINGzeSIDEzi TOUCHING INDEXsOOKv CURLICUEwINDEX RING LITTLE ",
    "INzpOUTzpUNDERwMIDDLE RING LITTLE CONJOINEDzza INzzbOUTzeTHUMBwRING THUMBrOVALv FIVE FINGERS",
    " SPREADwINDEXwLITTLE UPwNO THUMBwRING LITTLEwTHUMB FORWARDzdSIDEnEADq MOVEMENT CIRCLEza-FLOO",
    "RPLANE CURVEzmSTRAIGHTzbWALLPLANE CURVEzlSTRAIGHTzlTILTrRIMmLIMB COMBINATIONrLENGTH-1y2y3y4y",
    "5y6y7oP LOWER OVER UPPERqUPPER OVER LOWERpS PRESSED TOGETHERnOCATION DEPTHvHEAD NECKxIGHTvLI",
    "MBS DIGITSvTORSOvWIDTHu-FLOORPLANE SPACEvWALLPLANE SPACEmMOUTH CLOSED CONTACTzaFORWARDzaNEUT",
    "RALtORNERSsFROWNx OPENyWRINKLEDsKISSw FORWARDxWRINKLEDsOPEN CIRCLExFORWARDxOVALzc WRINKLEDzd",
    "YAWNxRECTANGLEzh WRINKLEDziYAWNxWRINKLEDsSMILEx OPENyWRINKLEDsTENSEx FORWARDySUCKEDsWRINKLES",
    " DOUBLEzcSINGLEoVEMENT-DIAGONAL AWAY LARGEzpSTzkMEDIUMzkSMALLzfBETWEEN AWAY LARGEzxSTzsMEDIU",
    "MzsSMALLznTOWARDS LARGEzzbSTzvMEDIUMzvSMALLzfTOWARDS LARGEzsSTznMEDIUMznSMALLvFLOORPLANE ARM",
    " CIRCLE HITTING WALL LARGE DOUBLEzzmSINGLEzzgMEDIUM DOUBLEzznSINGLEzzgSMALL DOUBLEzzmSINGLEz",
    "hBENDziOX LARGEzlMEDIUMzlSMALLzhCHECKziORNER LARGEzoMEDIUMzoSMALLziROSSziURVE COMBINEDznHITT",
    "ING CEILING LARGEzzeSMALLzvFLOOR LARGEzzcSMALLznLARGEzsSTznMEDIUMznSMALLzhDOUBLE ALTERNATING",
    "zza WRIST FLEXzoSTRAIGHTzoWRIST FLEXzhFINGER CIRCLES HITTING WALL DOUBLEzzkSINGLEzpONTACTzhH",
    "UMP HITTING CEILING LARGE DOUBLEzzjTRIPLEzzdSMALL DOUBLEzzjTRIPLEzuFLOOR LARGE DOUBLEzzbSMAL",
    "L DOUBLEzzbTRIPLE LARGE TRIPLEzziSMALL TRIPLEzmSMALLzhJAWzhLOOP HITTING CEILING LARGE DOUBLE",
    "zzjSINGLEzzdSMALL DOUBLEzzjSINGLEzuFLOOR LARGE DOUBLEzzhSINGLEzzbSMALL DOUBLEzzhSINGLEzmSMAL",
    "LzhPEAKS LARGEznMEDIUMznSMALLzhSHAKING PARALLELziINGLE STRAIGHT LARGEzzdSTzxMEDIUMzxSMALLzoW",
    "RIST FLEXzhTRIPLE ALTERNATING MOVEMENTzzbWRIST FLEXzoSTRAIGHT MOVEMENTzoWRIST FLEXzhWAVE HIT",
    "TING CEILING LARGEzzdSMALLzuFLOOR LARGEzzbSMALLzmLARGEzmSMALLznNAKEziRIST CIRCLE HITTING WAL",
    "L DOUBLEzziSINGLEzhZIGZAG LARGEzoMEDIUMzoSMALLvHINGE DOWN SEQUENTIALzcSIDE TO SIDE SCISSORSz",
    "cUP DOWN ALTERNATING LARGEzwSMALLzkLARGEzkSMALLzfSEQUENTIALvWALLPLANE ARM CIRCLE MEDIUM DOUB",
    "LEzySINGLEzrSMALL DOUBLEzxSINGLEzgBEND LARGEzlMEDIUMzlSMALLzhOX LARGEzkMEDIUMzkSMALLzgCHECK ",
    "LARGEzmMEDIUMzmSMALLzhORNER LARGEznMEDIUMznROTATIONznSMALLzhROSSzhURVE HALF-CIRCLE LARGEzzeS",
    "TzyMEDIUMzySMALLznITTING CHESTzuFRONT WALLzmQUARTER LARGEzzaSTzuMEDIUMzuSMALLzmTHEN STRAIGHT",
    "zoREE-QUARTER CIRCLE MEDIUMzziSMALLzlD CROSS MEDIUMztSMALLzgDOUBLE ALTERNATINGzy WRIST FLEXz",
    "nSTRAIGHTznWRIST FLEXzgFINGER CIRCLES DOUBLEzvSINGLEzoONTACTzgHUMP HITTING CHESTztFRONT WALL",
    "zlLARGEzlMEDIUMzlSMALLzgJAWzgLOOP HITTING CHESTztFRONT WALLzlLARGEzlMEDIUMzlSMALLzq DOUBLEzg",
    "PEAKS LARGEzmMEDIUMzmSMALLzgSHAKINGzhINGLE STRAIGHT LARGEzzcSTzwMEDIUMzwSMALLznWRIST FLEXzgT",
    "RIPLE ALTERNATINGzy WRIST FLEXznSTRAIGHT MOVEMENTznWRIST FLEXzgWAVE CURVE DOUBLE LARGEzyMEDI",
    "UMzySMALLzrTRIPLE LARGEzyMEDIUMzySMALLzlDIAGONAL PATH LARGEzzaMEDIUMzzaSMALLzlHITTING CHESTz",
    "tFRONT WALLzhRIST CIRCLE FRONT DOUBLEzzaSINGLEzgZIGZAG LARGEznMEDIUMznSMALLmNECKnOSE CONTACT",
    "rNEUTRALrWIGGLESsRINKLESmPARENTHESISmROTATION MODIFIER-10zg1zg2zg3zg4zg5zg6zf2zf3zf4zf5zf6zf",
    "7zf8zf9u-FLOORPLANE ALTERNATINGzs HITTING CEILINGzzcFLOORzhDOUBLEzn HITTING CEILINGzwFLOORzh",
    "SINGLEzn HITTING CEILINGzwFLOORvWALLPLANE ALTERNATEzoING HITTING CHESTzzbFRONT WALLzgDOUBLEz",
    "m HITTING CHESTzvFRONT WALLzgSINGLEzm HITTING CHESTzvFRONT WALLnUB BETWEENqMULTIPLEqSINGLEmS",
    "EMICOLONnHOULDER HIP POSITIONSzaSPINEvTILTING FROM WAISTnQUEEZE FLICK ALTERNATINGuLARGE MULT",
    "IPLEzbSINGLEuSEQUENTIALvMALL MULTIPLEzbSINGLEnTRIKE BETWEENtMULTIPLEtSINGLEnURFACE BETWEENuS",
    "YMBOLSmTEETHr BITE LIPSsMOVEMENTsON LIPSza MOVEMENTvTONGUEzc MOVEMENToNSE CHEEKS HIGHzaLOWza",
    "MIDDLEnONGUE CENTRE INSIDE MOUTHzbSTICKING OUTtINSIDE MOUTH RELAXEDtLICKING LIPStMOVES AGAIN",
    "ST CHEEKtSTICKING OUT FARtTIP BETWEEN LIPSxTOUCHING INSIDE MOUTHoRSO-FLOORPLANE TWISTINGsWAL",
    "LPLANE CURVED BENDzdSTRAIGHT STRETCHoUCH BETWEENsMULTIPLEsSINGLEnRAVEL-FLOORPLANE ROTATION-F",
    "LOORPLANE ALTERNATINGzzaDOUBLEzzaSINGLEzoWALLPLANE ALTERNATINGzyDOUBLEzySINGLEzfSHAKINGtWALL",
    "PLANE ARM SPIRAL DOUBLEzpSINGLEzpTRIPLEzeROTATION-FLOORPLANE ALTERNATINGzyDOUBLEzySINGLEznWA",
    "LLPLANE ALTERNATINGzxDOUBLEzxSINGLEzeSHAKINGmUPPER BODY TILTING FROM HIP JOINTSmWALLPLANE SH",
    "OULDER HIP MOVEcLHOUETTE OF JAPANcMILAR ABOVE GREATER-THAN ABOVE EQUALS SIGNoLESS-THAN ABOVE",
    " EQUALS SIGNiMINUS SIMILARiOR GREATER-THANlLESS-THANcNE WAVEdGLE CHARACTER INTRODUCERhGRAPHI",
    "C CHARACTER INTRODUCERhHIGH-REVERSED-9 QUOTATION MARKhLEFT-POINTING ANGLE QUOTATION MARKiOW-",
    "9 QUOTATION MARKhRIGHT-POINTING ANGLE QUOTATION MARKhSHIFT THREEoWOg-SHIFT-2n3dHALA ARCHAIC ",
    "DIGIT EIGHTwFIVExOURwNINEwONEwSEVENxIXwTHREExWOqNUMBER EIGHTYxFIFTYyORTYxNINETYxONE HUNDREDz",
    "cTHOUSANDxSEVENTYyIXTYxTENyHIRTYyWENTYiLETTER AAYANNAqEEYANNArYANNAqIYANNAqLPAPRAANA BAYANNA",
    "zbCAYANNAzbDAYANNAzcDAYANNAzbGAYANNAzbJAYANNAzbKAYANNAzbPAYANNAzbTAYANNAzcTAYANNAqMBA BAYANN",
    "AqUYANNAqYANNApDANTAJA LAYANNAxNAYANNAxSAYANNApEEYANNAqYANNApFAYANNApHAYANNApIIYANNAqLUUYANN",
    "AsYANNAqRUUYANNAsYANNAqYANNApKANTAJA NAASIKYAYApMAHAAPRAANA BAYANNAzcCAYANNAzcDAYANNAzdDAYAN",
    "NAzcGAYANNAzcJAYANNAzcKAYANNAzcPAYANNAzcTAYANNAzdTAYANNArYANNAqUURDHAJA LAYANNAzaNAYANNAzaSA",
    "YANNApOOYANNAqYANNApRAYANNApSANYAKA DAYANNAyDAYANNAxGAYANNAxJAYANNApTAALUJA NAASIKYAYAxSANYO",
    "OGA NAAKSIKYAYAzaYANNApUUYANNAqYANNApVAYANNApYAYANNAjITH DIGIT EIGHTtFIVEuOURtNINEtONEtSEVEN",
    "uIXtTHREEuWOtZEROiPUNCTUATION KUNDDALIYAiSIGN AL-LAKUNAoNUSVARAYAnCANDRABINDUnVISARGAYAiVOWE",
    "L SIGN AELA-PILLAtDIGA AEDA-PILLAyGAETTA-PILLAzbYANUKITTAyIS-PILLAyKOMBUVAyPAA-PILLAtGAETTA-",
    "PILLAvYANUKITTAtKETTI AEDA-PILLAzaIS-PILLAzaPAA-PILLAuOMBU DEKAyVAzb HAA AELA-PILLAzgDIGA AE",
    "LA-PILLAzgGAYANUKITTAcX PETALLED BLACK AND WHITE FLORETTEfOINTED BLACK STARmPINWHEEL STARmST",
    "AR WITH MIDDLE DOTd-PER-EM SPACEdTEEN POINTED ASTERISKbKATEBOARDcI AND SKI BOOTdERcULLf AND ",
    "CROSSBONESdNKbLANTED EQUAL TO OR GREATER-THANzh WITH DOT INSIDEuLESS-THANze WITH DOT INSIDEi",
    "NORTH ARROW WITH HOOKED HEADzcRIZONTAL TAILdVONIC ASTERISKcEDdEPING ACCOMMODATIONjFACEjSYMBO",
    "LfY FACEdUTH OR SPYcICE OF PIZZAdGHTLY FROWNING FACEjSMILING FACEcOPEeING LARGE ANDoORdT MAC",
    "HINEeHbMALL AIRPLANEhMPERSANDhSTERISKgBLUE DIAMONDgCOLONiMMAkERCIAL ATiNTAINS AS MEMBERpWITH",
    " OVERBARuVERTICAL BAR AT END OF HORIZONTAL STROKEgDOLLAR SIGNgELEMENT OFq WITH OVERBARwVERTI",
    "CAL BAR AT END OF HORIZONTAL STROKEhM DASHhQUALS SIGNhXCLAMATION MARKgFULL STOPgGREATER-THAN",
    " SIGNgHYPHEN-MINUSgIDEOGRAPHIC COMMAgLEFT CURLY BRACKETlPARENTHESISlTORTOISE SHELL BRACKETiS",
    "S-THAN SIGNgNUMBER SIGNgORANGE DIAMONDgPERCENT SIGNhLUS SIGNgQUESTION MARKgREVERSE SOLIDUShI",
    "GHT CURLY BRACKETmPARENTHESISmTORTOISE SHELL BRACKEThOMAN NUMERAL EIGHTvLEVENuFIFTYwVEy HUND",
    "REDvOURuNINEuONEx HUNDREDyTHOUSANDuSEVENvIXuTENvHREEvWELVEwOgSEMICOLONgTILDEhWO DOTS OVER ON",
    "E DOT PUNCTUATIONgVEE WITH UNDERBARfER THANm OR EQUAL TOdSH PRODUCTcILEeING CAT FACE WITH HE",
    "ART-SHAPED EYESwOPEN MOUTHiFACE WITH HALOtEART-SHAPED EYEStORNSsOPEN MOUTHzd AND COLD SWEATz",
    "iSMILING EYESziTIGHTLY-CLOSED EYESsSMILING EYESzf AND HAND COVERING MOUTHzkTHREE HEARTStUNGL",
    "ASSESsTEARdRKING FACEcOKING SYMBOLbNAILdKEcEEZING FACEcOW CAPPED MOUNTAINeBOARDEReFLAKEeMANh",
    " WITHOUT SNOWbOcCCER BALLdKScFT HYPHENfICE CREAMfSHELL FLOPPY DISKeBALLeWARE-FUNCTION SYMBOL",
    "cGDIAN COMBINING CURVE ABOVEyBELOWsDOT ABOVEwBELOWsHOOK ABOVExBELOWsLONG HOOK BELOWsRESH BEL",
    "OWsSTROKE BELOWsTWO DOTS ABOVEzcBELOWiINDEPENDENT SHINiLETTER ALEPHqYINpBETHpFETHpGIMELpHErT",
    "HpKAPHpLAMEDHqESHpMEMpNUNpPEpRESH-AYINpSADHErMEKHqHINpTAWpWAWpYODHpZAYINiNUMBER ONEs HUNDRED",
    "pTENqWENTYiPUNCTUATION CIRCLE WITH DOTuHALF CIRCLE WITH DOTuTWO CIRCLES WITH DOTSyVERTICAL B",
    "ARSzm WITH DOTScHcLID QUILT SQUARE ORNAMENTzc IN BLACK SQUAREfUSh WITH OVERBARcM SIGNcON WIT",
    "H RIGHTWARDS ARROW ABOVEcRA SOMPENG DIGIT EIGHTtFIVEuOURtNINEtONEtSEVENuIXtTHREEuWOtZEROnLET",
    "TER AHuBAHuCAHuDAHuEEHvHuGAHuHAHuIHuJAHuKAHuLAHuMAEwHuNAHvGAHvYAHuOHuPAHuRAHuSAHuTAHuUHuVAHu",
    "YAHcScUND RECORDING COPY",
    "RIGHTdTH EAST ARROWq AND SOUTH WEST ARROWrCROSSING NORTH EAST ARROWrTO CORNERrWITH HOOKlBLAC",
    "K ARROWlDOUBLE ARROWlPOINTING BUDuLEAFuVINE LEAFlSANS-SERIF ARROWlTRIANGLE-HEADED ARROWzh TO",
    " BARlWHITE ARROWgWEST ARROWq AND NORTH WEST ARROWrWITH HOOKlBLACK ARROWlDOUBLE ARROWlPOINTIN",
    "G BUDuLEAFuVINE LEAFlSANS-SERIF ARROWlTRIANGLE-HEADED ARROWzh TO BARlWHITE ARROWcYOMBO CLUST",
    "ER-INITIAL LETTER LAzgRAzgSAzhHAiFINAL CONSONANT SIGN -AzeBzeDzeGzeKzeLzeMzeNzfGzeRzeSzfHiGE",
    "MINATION MARKiHEAD MARK WITH MOON AND SUNzk AND FLAMEzpTRIPLE FLAMEiLETTER -ApApBAqHApCAqHAp",
    "DAqDArHAqHAqZApGAqHApHApJAqHApKAqHAqSSApLApMApNAqGAqNAqYApPAqHApRApSAqHAqSApTAqHAqSArHAqTArH",
    "ApVApYApZAqHAiMARK DOUBLE SHADnPLUTAnSHADnTSHEGiSIGN ANUSVARAnJIHVAMULIYAnUPADHMANIYAnVISARG",
    "AjUBJOINERiTERMINAL MARK-1w2iVOWEL LENGTH MARKoSIGN AIuUtEtItOuEtUuEtVOCALIC LzcRbPcAdCEdGHE",
    "TTIdRKLEhSgING HEARTcEAK-NO-EVIL MONKEYfERh WITH CANCELLATION STROKEnONE SOUND WAVEnTHREE SO",
    "UND WAVESfING HEAD IN SILHOUETTEdECH BALLOONeDBOATdSMILO SIGNcHERICAL ANGLEp OPENING LEFTyUP",
    "cIDERg WEBdRAL CALENDAR PADhNOTE PADhSHELLcLASHING SWEAT SYMBOLcONGEdOL OF THREADeNdRTS MEDA",
    "LdUTING WHALEbQUARE A OVER MiARUiMiNPEAiPAATOiRUHUAiUhBAARERUjRiEETAiIRUiORUTOiQiUSSYERUhC O",
    "VER KGiALjPiCiDiMj CUBEDkSQUAREDiOjRPORATIONiUPhDAjASUiBiESIiJiLiMj CUBEDkSQUAREDiORUhEEKAAi",
    "RA NAME HEISEIqMEIZIqREIWAqSYOUWAqTAISYOUjGiSUKUUDOiVhFMiOOTjUR CORNERShGALjNMAjRONiBiHZiIGA",
    "jNIIjRUDAAiPAiURAMUnTONiYhHAjITUiEKUTAARUjRUTUiGiIRAGANA HOKAiONjONkRUiPjAiUARADDOjIITOjRANi",
    "ZhIMAGE OFp OR EQUAL TOtNOT EQUAL TOiNjINGUjTIiUhK OHMiAjIRIjRATTOkORIIiBiCALiEESUiGiHZiIROl",
    "GURAMUlMEETORUlWATTOiKiLiMj CAPITALlUBEDkSQUAREDiOOPOjRUNAiPAiTiUROONEkUZEIROiViWiYURIIhLEFT",
    " OPEN BOX OPERATORiMiNiOGjZENGEiXhM CUBEDjOHMkVER Sp SQUAREDjSQUAREDiAjHHAjIKUROkRUjNSYONjRU",
    "KUiBj SMALLiEETORUjGAlTONiGiHZiIKURONjLjRIlBAARUiLiMj CUBEDkSQUAREDiOLiPAiSiU AkFkGkLkMkSkVk",
    "WiVj MEGAiWj MEGAhNAjNOiFiMiOTTOiSiViWhONSUiOMUiRIGINAL OFs OR EQUAL TOwNOT EQUAL TOiVhPAj A",
    "MPSjASENTOkTUiCiEEZIjNIHIkSUjSOiFiHiIASUTORUjKOkURUiMiOINTOjNDOjSITION INDICATORiPMiRiSiViWh",
    "RADk OVER Sr SQUAREDiEMUjNTOGENiIGHT OPEN BOX OPERATORjRAjTTORUiOOTiUPIIjUBURUhSAIKURUjNTIIM",
    "UiENTIlOiIRINGUiRiVhTARGETiHZiONhUONhV OVER MhWATTOiBiITH BOTTOM HALF BLACKmCONTOURED OUTLIN",
    "EmDIAGONAL CROSSHATCH FILLmHORIZONTAL FILLmLEFT HALF BLACKnOWER LEFT DIAGONAL HALF BLACKsRIG",
    "HT DIAGONAL HALF BLACKmORTHOGONAL CROSSHATCH FILLmRIGHT HALF BLACKmTOP HALF BLACKmUPPER LEFT",
    " DIAGONAL HALF BLACKxTO LOWER RIGHT FILLsRIGHT DIAGONAL HALF BLACKyTO LOWER LEFT FILLmVERTIC",
    "AL FILLhYAADOkRUiUANgD ASTERISKiCJK UNIFIED IDEOGRAPH-4E00zi9zh2Dzh8CzhA4zf518Dzg21Dzh4Dzh72",
    "zg3CCzhF3zg408zh39zg5B6zg8F0zg91Azh29zgB57zgDE6zgF8Czf624Bzh53zh95zg307zh55zg599zhB0zg620zg7",
    "08zi9zgE80zgF14zf7121zg51Fzh33zg981zgA7AzgD42zf89E3zgCA9zgD70zf904Azg14DjLjOOLiDOT OPERATORi",
    "EIGHT KiFALLING DIAGONAL SLASHjIVE POINT ONEjOUR DOT PUNCTUATIONnKjREEiHCjDRjI-RESjViIDiKATA",
    "KANA DErKOKOrSAjEYiLATIN CAPITAL LETTER AzeBzeCzeDzeEzeFzeGzeHzeIzeJzeKzeLzeMzeNzeOzePzeQzeR",
    "zeSzeTzeUzeVzeWzeXzeYzeZoSMALL LETTER DjOGICAL ANDqORkSSLESSiMINUSjViNEWjGiOKjNE HUNDRED TWE",
    "NTY PiPLUSjPViRISING DIAGONAL SLASHiSALTIREjDjECOND SCREENkVEN POINT ONEjHVjIXTY PjMALL CIRC",
    "LEjOSjQUAREjSiTHREE DjIMESjWENTY-TWO POINT TWOkO KiUHDjP WITH EXCLAMATION MARKiVODjSiWCeT BL",
    "ACK RIGHTWARDS ARROWdIDbS2c3cAbTcADIUMdFF OF AESCULAPIUSjHERMESdMPED ENVELOPEdNDING PERSONdR",
    " AND CRESCENTfEQUALSfOF DAVIDgPERATORfWITH LEFT HALF BLACKkRIGHT HALF BLACKeT OF GUARDED ARE",
    "AjHEADINGjPROTECTED AREAjSELECTED AREAkTRINGjTEXTdTIONeUE OF LIBERTYcEAM LOCOMOTIVEfING BOWL",
    "dNOGRAPHIC FULL STOPdTHOSCOPEcICK FIGUREm LEANING LEFTvRIGHTnWITH ARMS RAISEDsDRESScOCK CHAR",
    "TdPWATCHcRAIGHT RULERiNESSeWBERRYdESS OUTLINED WHITE STARdICTLY EQUIVALENT TOeNG TERMINATORc",
    "ScUDIO MICROPHONEdFFED FLATBREADdPAcXbUBdSCRIPT EIGHTlQUALS SIGNkFIVElOURkLEFT PARENTHESISkM",
    "INUSkNINEkONEkPLUS SIGNkRIGHT PARENTHESISkSEVENlIXkTHREElWOkZEROeET ABOVE RIGHTWARDS ARROWnS",
    "UBSETpPERSEThOFj ABOVE ALMOST EQUAL TOqEQUALS SIGNqNOT EQUAL TOqTILDE OPERATORkOR EQUAL TOv ",
    "WITH DOT ABOVEkWITH NOT EQUAL TOhWITH DOTmMULTIPLICATION SIGN BELOWmPLUS SIGN BELOWeTITUTEcC",
    "CEEDSi ABOVE ALMOST EQUAL TOpEQUALS SIGNpNOT ALMOST EQUAL TOtEQUAL TOpSINGLE-LINE EQUALS SIG",
    "NzcNOT EQUAL TOjBUT NOT EQUIVALENT TOjOR EQUAL TOpIVALENT TOjUNDER RELATIONcMMATION BOTTOMkT",
    "OPkWITH INTEGRALcNd BEHIND CLOUDeWITH FACEdDANESE AVAGRAHAkCONSONANT SIGN PAMINGKALzcNYAKRAz",
    "eIKUzcSANGAN MAzjWAkDIGIT EIGHTqFIVErOURqNINEqONEqSEVENrIXqTHREErWOqZEROkLETTER AsErBAsHArCA",
    "rDArEsUrFAsINAL KxMrGArHArIrJArKAsHArLAsEUrMArNAsGAsYArOrPArQArRAsEUrSAsYArTArUrVArWArXArYAr",
    "ZAkPUNCTUATION BINDU BA SATANGAzdCAKRAzdDA SATANGAzdKA SATANGAzdLEU SATANGAzdPANGLONGzeURNAM",
    "AzdSURYAkSIGN PAMAAEHrNGLAYARtWISADsYECEKpVIRAMAkVOWEL SIGN PAMEPETxNAELAENGyEULEUNGyGHULUyO",
    "LONGyYUKUdFLOWERdRISEh OVER MOUNTAINSdSET OVER BUILDINGScPERHEROfSCRIPT EIGHTnQUALS SIGNmFIV",
    "EnOURmLATIN SMALL LETTER IzgNnEFT PARENTHESISmMINUSmNINEmONEmPLUS SIGNmRIGHT PARENTHESISmSEV",
    "ENnIXmTHREEnWOmZEROgET ABOVE LEFTWARDS ARROWpSUBSETrPERSETjBESIDE AND JOINED BY DASH WITH SU",
    "BSETqSUBSETjOFl ABOVE ALMOST EQUAL TOsEQUALS SIGNsNOT EQUAL TOsTILDE OPERATORmOR EQUAL TOx W",
    "ITH DOT ABOVEmWITH NOT EQUAL TOjPRECEDING SOLIDUSjWITH DOToMULTIPLICATION SIGN BELOWoPLUS SI",
    "GN BELOWfVILLAINcRFACE INTEGRALeERcSHIdPENSION RAILWAYbWANdSH AMPERSAND ORNAMENTcIMMERcUNG D",
    "ASHbYLOTI NAGRI LETTER AuBHOvOuCHOvOuDDHOwOvHOvOuEuGHOvOuHOuIuJHOvOuKHOvOuLOuMOuNOuOuPHOvOuR",
    "OvROuSOuTHOvOvTHOwOuUnPOETRY MARK-1za2za3za4nSIGN ALTERNATE HASANTAtNUSVARAsDVISVARAsHASANTA",
    "nVOWEL SIGN AyEyIyOOyUcMBOL FOR ACKNOWLEDGElBACKSPACEmELLlCANCELnRRIAGE RETURNlDATA LINK ESC",
    "APEmELETEr FORM TWOnVICE CONTROL FOURzbONEzbTHREEzcWOlEND OF MEDIUMsTEXTtRANSMISSIONzf BLOCK",
    "nQUIRYmSCAPElFILE SEPARATORmORM FEEDlGROUP SEPARATORlHORIZONTAL TABULATIONlLINE FEEDlMARKS C",
    "HAPTERlNEGATIVE ACKNOWLEDGEnWLINEmULLlRECORD SEPARATORlSAMARITAN SOURCEmHIFT INrOUTmPACEmTAR",
    "T OF HEADINGuTEXTmUBSTITUTEv FORM TWOmYNCHRONOUS IDLElTYPE A ELECTRONICSlUNIT SEPARATORlVERT",
    "ICAL TABULATIONdMETRYcNdAGOGUEdCHRONOUS IDLEcRIAC ABBREVIATION MARKhBARREKHhCOLON SKEWED LEF",
    "TuRIGHTjNTRACTIONhDOTTED ZLAMA ANGULARuHORIZONTALhEND OF PARAGRAPHiSASA ABOVEnBELOWhFEMININE",
    " DOThHARKLEAN ASTERISCUSqMETOBELUSqOBELUSiBASA ABOVEnBELOWm-ESASA DOTTEDiORIZONTAL COLONhLET",
    "TER ALAPHoBETHoDALATHpOTLESS DALATH RISHoEoFINAL SEMKATHoGAMALt GARSHUNIoHEqTHoKAPHoLAMADHoM",
    "ALAYALAM BHAyJAyLLAzbLAyNGAzaNAzbNAzaYAyRAySSAyTTApIMoNUNoPEqRSIAN BHETHwDHALATHwGHAMALoQAPH",
    "oREVERSED PEpISHoSADHEpEMKATHpHINpOGDIAN FEwKHAPHwZHAINpUPERSCRIPT ALAPHoTAWpETHs GARSHUNIoW",
    "AWoYUDHs HEoZAINhMUSIChOBLIQUE LINE ABOVEuBELOWhPTHAHA ABOVEoBELOWoDOTTEDhQUSHSHAYAhRBASA AB",
    "OVEnBELOWiUKKAKHAiWAHAhSUBLINEAR COLONw SKEWED LEFTzfRIGHTrFULL STOPjPRALINEAR COLONy SKEWED",
    " LEFTtFULL STOPhTHREE DOTS ABOVEsBELOWiWO VERTICAL DOTS ABOVEzaBELOWhZQAPHA ABOVEoBELOWoDOTT",
    "EDeNGEaT-REXcSHIRTbABdLE TENNIS PADDLE AND BALLcCOcG AMPERSANDfPOSTROPHEfSTERISKeCIRCUMFLEX ",
    "ACCENTfOLONgMMAiERCIAL ATeDIGIT EIGHTkFIVElOURkNINEkONEkSEVENlIXkTHREElWOkZEROfOLLAR SIGNeEQ",
    "UALS SIGNfXCLAMATION MARKeFULL STOPeGRAVE ACCENTgEATER-THAN SIGNeHYPHEN-MINUSeLATIN CAPITAL ",
    "LETTER AzaBzaCzaDzaEzaFzaGzaHzaIzaJzaKzaLzaMzaNzaOzaPzaQzaRzaSzaTzaUzaVzaWzaXzaYzaZkSMALL LE",
    "TTER AxBxCxDxExFxGxHxIxJxKxLxMxNxOxPxQxRxSxTxUxVxWxXxYxZfEFT CURLY BRACKETjPARENTHESISjSQUAR",
    "E BRACKETgSS-THAN SIGNfOW LINEeNUMBER SIGNePERCENT SIGNfLUS SIGNeQUESTION MARKgOTATION MARKe",
    "REVERSE SOLIDUSfIGHT CURLY BRACKETkPARENTHESISkSQUARE BRACKETeSEMICOLONfOLIDUSfPACEeTILDEeVE",
    "RTICAL LINEdALOG LETTER AqRCHAIC RApBApDApGApHApIpKApLApMApNAqGApPApRApSApTApUpWApYAiSIGN PA",
    "MUDPODnVIRAMAiVOWEL SIGN ItUdBANWA LETTER AqBAqDAqGAqIqKAqLAqMAqNArGAqPAqSAqTAqUqWAqYAjVOWEL",
    " SIGN IuUcI LE LETTER ApIpUEoEpEpHoFAoHAoIoKApHAoLAoMAoNApGAoOpOoPApHAoQAoSAoTApHApONE-2t3t4",
    "t5t6pSAqHAoUpEoVAoXAoYAeTHAM COMBINING CRYPTOGRAMMIC DOTlNSONANT SIGN BAyFINAL NGAyHIGH RATH",
    "A OR LOW PAyLA TANG LAIzaOW PAyMAzaEDIAL LAzgRAySAjHORA DIGIT EIGHTuFIVEvOURuNINEuONEuSEVENv",
    "IXuTHREEvWOuZEROjLETTER AqBAqDAqEEqGREAT SAqHIGH CAwHAvFAvHAvKAwHAwXAvPAwHAvRATHAvSAwHAwSAvT",
    "AwHAvYAqIrIqLAsErLArOW CAvHAuFAuHAuKAvHAvXAuPAvHAuRATHAuSAuTAvHAuYArUEqMAqNArGArYAqOOqRAsNAs",
    "TArUEqUrUqWAjSIGN CAANGoDOKMAIoHANGpOYoKAANsKUUpEOWpHUEN TONE-3za4za5t-LUE KARANoMAI KANGw L",
    "AIsSAMsYAMOKoRA HAAMpEVERSED ROTATED RANAoSAKOTqTKAANvKUUqWANoTONE-1t2oWIANGtWAAKjTHAM DIGIT",
    " EIGHTuFIVEvOURuNINEuONEuSEVENvIXuTHREEvWOuZEROjVOWEL SIGN AvAvEvIuEuIvIuMAI SATuOvA ABOVExB",
    "ELOWvOvYuTALL AAvHAM AIuUvEvUwEeVIET LETTER HIGH BOvCHOwOvDOvFOvGOvHOvKHHOxOwOvLOvMOvNGOwOwY",
    "OvOvPHOwOvROvSOvTHOwOvVOvYOqLOW BOuCHOvOuDOuFOuGOuHOuKHHOwOvOuLOuMOuNGOvOvYOuOuPHOvOuROuSOuT",
    "HOvOuVOuYOjMAI KANGoHITjSYMBOL HO HOIqKOI KOIsNqNUENGqSAMjTONE MAI EKsNUENGsSONGsTHOjVOWEL A",
    "AqMqNqUEqYpEpIqApOpUqAqErAcKEOUT BOXdRI ABBREVIATION SIGNgDIGIT EIGHTmFIVEnOURmNINEmONEmSEVE",
    "NnIXmTHREEnWOmZEROgLETTER AoAoIoRCHAIC KHAoUnBAoHAnCAoHAnDAoDApHAoHAnEnGAoHAnHAnIoInJAoHAnKA",
    "oHAnLAnMAnNAoGAoNAoYAnOnPAoHAnRAoRAnSAoHAnTAoHAoTApHAnUoUnVAnYAgSIGN ANUSVARAlNUKTAlVIRAMAnS",
    "ARGAgVOWEL SIGN AAsIsUrErIsIrOrUsUcLLY MARK FIVElONEcMALEdIL AND ODD SIGNhS ABOVE SIGNhU LEN",
    "GTH MARKgCREDIT SIGNhURRENT SIGNgDAY SIGNhEBIT SIGNhIGIT EIGHTmFIVEnOURmNINEmONEmSEVENnIXmTH",
    "REEnWOmZEROhRY CULTIVATION SIGNgFRACTION DOWNSCALING FACTOR KIIZHpONE EIGHTHyIETHtFIFTHuORTI",
    "ETHtHALF-1y2tONE-HUNDRED-AND-SIXTIETHtQUARTERtSIXTEENTH-1ze2xY-FOURTHtTENTHuHIRTY-SECONDvREE",
    "-HUNDRED-AND-TWENTIETHuWENTIETHpTHREE EIGHTIETHSvQUARTERSvSIXTEENTHSzaY-FOURTHSvTWENTIETHSgI",
    "N POSSESSION SIGNgLAND SIGNhETTER AoAoIoUnCAnEoEnHAnIoInJAnKAnLAoLApLAnMAnNAoGAoNApNAoYAnOoO",
    "nPAnRAoRAnSAoHAoSAnTAoTAnUoUnVAnYAgMONTH SIGNgNUMBER ONE HUNDREDrTHOUSANDnSIGNnTENgOMgPUNCTU",
    "ATION END OF TEXTgRUPEE SIGNgSALT PAN SIGNhIGN AAZHAAKKUmNUSVARAlCEVITUlKAACUmURUNInZHIlMUKK",
    "URUNInTHALIYAnUVUZHAKKUlNELlPAARAMnNAMnTHAKKUmONlUZHAKKUlVAKAIYARAAnRAAKANmELImIRAMAnSARGAhP",
    "ENT SIGNhTARTING FROM SIGNgTOTAL SIGNhRADITIONAL CREDIT SIGNsNUMBER SIGNgVOWEL SIGN AAsIsUrE",
    "sErIsIrOsOrUsUgWET CULTIVATION SIGNgYEAR SIGNcNABATA TREEdGERINEeSA DIGIT EIGHTnFIVEoOURnNIN",
    "EnONEnSEVENoIXnTHREEoWOnZEROhLETTER ACpQpWCqQqXqZpXpZoBAoCApHAoDApHAoECpQpXpZoFApINAL NGoGAp",
    "HAoHApTAqTAoICpQpXpZoKApHAoLApONG UEXoMApCpQpXpZoNApGApHApYAoOCpQpXpZoPApHAoRAoSApHAqORT AWX",
    "uUEZoTApHApSAoUCpECqQqXqZpICqQqUCrQrXrZqXqZpQpXpZoVCpQpXpZoWAoXAoYAoZAeUT COMPONENT-001t2t3t",
    "4t5t6t7t8t9s10t1t2t3t4t5t6t7t8t9s20t1t2t3t4t5t6t7t8t9s30t1t2t3t4t5t6t7t8t9s40t1t2t3t4t5t6t7t",
    "8t9s50t1t2t3t4t5t6t7t8t9s60t1t2t3t4t5t6t7t8t9s70t1t2t3t4t5t6t7t8t9s80t1t2t3t4t5t6t7t8t9s90t1",
    "t2t3t4t5t6t7t8t9r100t1t2t3t4t5t6t7t8t9s10t1t2t3t4t5t6t7t8t9s20t1t2t3t4t5t6t7t8t9s30t1t2t3t4t",
    "5t6t7t8t9s40t1t2t3t4t5t6t7t8t9s50t1t2t3t4t5t6t7t8t9s60t1t2t3t4t5t6t7t8t9s70t1t2t3t4t5t6t7t8t",
    "9s80t1t2t3t4t5t6t7t8t9s90t1t2t3t4t5t6t7t8t9r200t1t2t3t4t5t6t7t8t9s10t1t2t3t4t5t6t7t8t9s20t1t",
    "2t3t4t5t6t7t8t9s30t1t2t3t4t5t6t7t8t9s40t1t2t3t4t5t6t7t8t9s50t1t2t3t4t5t6t7t8t9s60t1t2t3t4t5t",
    "6t7t8t9s70t1t2t3t4t5t6t7t8t9s80t1t2t3t4t5t6t7t8t9s90t1t2t3t4t5t6t7t8t9r300t1t2t3t4t5t6t7t8t9",
    "s10t1t2t3t4t5t6t7t8t9s20t1t2t3t4t5t6t7t8t9s30t1t2t3t4t5t6t7t8t9s40t1t2t3t4t5t6t7t8t9s50t1t2t",
    "3t4t5t6t7t8t9s60t1t2t3t4t5t6t7t8t9s70t1t2t3t4t5t6t7t8t9s80t1t2t3t4t5t6t7t8t9s90t1t2t3t4t5t6t",
    "7t8t9r400t1t2t3t4t5t6t7t8t9s10t1t2t3t4t5t6t7t8t9s20t1t2t3t4t5t6t7t8t9s30t1t2t3t4t5t6t7t8t9s4",
    "0t1t2t3t4t5t6t7t8t9s50t1t2t3t4t5t6t7t8t9s60t1t2t3t4t5t6t7t8t9s70t1t2t3t4t5t6t7t8t9s80t1t2t3t",
    "4t5t6t7t8t9s90t1t2t3t4t5t6t7t8t9r500t1t2t3t4t5t6t7t8t9s10t1t2t3t4t5t6t7t8t9s20t1t2t3t4t5t6t7",
    "t8t9s30t1t2t3t4t5t6t7t8t9s40t1t2t3t4t5t6t7t8t9s50t1t2t3t4t5t6t7t8t9s60t1t2t3t4t5t6t7t8t9s70t",
    "1t2t3t4t5t6t7t8t9s80t1t2t3t4t5t6t7t8t9s90t1t2t3t4t5t6t7t8t9r600t1t2t3t4t5t6t7t8t9s10t1t2t3t4",
    "t5t6t7t8t9s20t1t2t3t4t5t6t7t8t9s30t1t2t3t4t5t6t7t8t9s40t1t2t3t4t5t6t7t8t9s50t1t2t3t4t5t6t7t8",
    "t9s60t1t2t3t4t5t6t7t8t9s70t1t2t3t4t5t6t7t8t9s80t1t2t3t4t5t6t7t8t9s90t1t2t3t4t5t6t7t8t9r700t1",
    "t2t3t4t5t6t7t8t9s10t1t2t3t4t5t6t7t8t9s20t1t2t3t4t5t6t7t8t9s30t1t2t3t4t5t6t7t8t9s40t1t2t3t4t5",
    "t6t7t8t9s50t1t2t3t4t5t6t7t8t9s60t1t2t3t4t5t6t7t8hITERATION MARKcPE CARTRIDGEfDRIVEcURUScXIbE",
    "ACUP WITHOUT HANDLEdPOTdR-OFF CALENDAReDROP-BARBED RIGHTWARDS ARROWjSPOKED ASTERISKcDDY BEAR",
    "cLEPHONE LOCATION SIGNkON TOP OF MODEMkRECEIVERs WITH PAGEnORDERkSIGNeSCOPEeVISIONdUGU AI LE",
    "NGTH MARKhDIGIT EIGHTnFIVEoOURnNINEnONEnSEVENoIXnTHREEoWOnZEROhFRACTION DIGIT ONE FOR EVEN P",
    "OWERS OF FOURzfODD POWERS OF FOURwTHREE FOR EVEN POWERS OF FOURzhODD POWERS OF FOURxWO FOR E",
    "VEN POWERS OF FOURzfODD POWERS OF FOURwZERO FOR ODD POWERS OF FOURhLENGTH MARKjTTER ApApIpUo",
    "BApHAoCApHAoDApDAqHApHApZAoEpEoGApHAoHAoIpIoJApHAoKApHAoLApLAqLAoMAoNAqKAARA POLLUpGApNApYAo",
    "OpOoPApHAoRApRAqRAoSApHApSAoTApHApSApTAqHAoUpUoVApOCALIC LxLwRxRoYAhSIGN ANUSVARAnVAGRAHAmCA",
    "NDRABINDUnOMBINING ANUSVARA ABOVEwCANDRABINDU ABOVEmNUKTAmSIDDHAMmTUUMUmVIRAMAoSARGAhVOWEL S",
    "IGN AAtItUsEtEsItIsOtOsUtUsVOCALIC LzcLzbRzcRcNGE SIGNdNIS RACQUET AND BALLdTcST TUBEcTRAGRA",
    "M FOR ACCUMULATIONpDVANCEpGGRAVATIONpSCENToBARRIERpOLD RESOLUTIONpRANCHING OUToCENTREpHANGEp",
    "LOSED MOUTHtNESSsUREpOMPLETIONtIANCEqNSTANCYrTACTsENTIONsRARIETYoDARKENINGpECISIVENESSqFECTI",
    "VENESS OR DISTORTIONqPARTUREpIFFICULTIESqMINISHMENTrMINGqVERGENCEpOUBTpUTIESoEASEpMBELLISHME",
    "NTpNCOUNTERSqDEAVOURqLARGEMENTpTERNITYpXHAUSTIONoFAILUREpLIGHTpOLLOWINGqSTERINGpULL CIRCLEsN",
    "ESSoGATHERINGx INpOING TO MEETpREATNESSpUARDEDNESSoHARDNESSpOLDING BACKoINCREASEqNERoJOYoKEE",
    "PING SMALLpINSHIPoLABOURINGqW OR MODELpEGIONoMASSINGpEASUREpIREDoON THE VERGEpPPOSITIONoPACK",
    "INGqTTERNpENETRATIONpURITYoREACHqLEASEqSIDENCEsSTANCErPONSEpITUALoSEVERANCEpINKINGpTOPPAGErV",
    "EqRENGTHoUNITYoVASTNESS OR WASTINGoWAITINGqTCHoYOUTHFULNESSbHAANA AABAAFILIiBAFILIhEBEFILIiE",
    "BEEFILIiYBEYFILIhIBIFILIhLETTER AINUpLIFUoBAAoCHAVIYANIoDAADHUqVIYANIpHAALUoFAAFUoGAAFUpHAIN",
    "UpNAVIYANIoHAApHAAoJAVIYANIoKAAFUpHAAoLAAMUpHAVIYANIoMEEMUoNAApOONUoPAVIYANIoQAAFUoRAAoSAADH",
    "UpEENUpHAVIYANIqEENUoTAVIYANIpHAAsLUpOpTAAoVAAVUoWAAVUoYAAoZAAqVIYANIpOhOABOAFILIiBOFILIiOBO",
    "OFILIhSUKUNhUBUFILIdI CHARACTER ANGKHANKHUpBO BAIMAIpCHO CHANxGvINGvOEpDO CHADAsDEKpFO FAuNr",
    "NGMANpHO HIPsNOKHUKpKHO KHAIvONvUATvWAItRAKHANGsMUTqO KAIpLAKKHANGYAOqO CHULAsLINGqUpMAI CHA",
    "TTAWAtEKtHAN-AKATtTHOuRIsTAIKHUsYAMOKqO MApNGO NGUqIKHAHITqO NENtUpO ANGpPAIYANNOIqHINTHUrO ",
    "PHANvUNGtSAMPHAOqO PLApRO RUAqUpSARA AvAvEvI MAIMALAIzcUANvMuEuIvIuOuUvEwEvUqO RUSIsSALAtOtU",
    "ApTHANTHAKHATrO NANGMONTHOtPHUTHAOtTHAHANwNvONGvUNGqO PATAKsTAOpWO WAENpYAMAKKANqO YAKtINGgU",
    "RRENCY SYMBOL BAHTfDIGIT EIGHTlFIVEmOURlNINElONElSEVENmIXlTHREEmWOlZEROcERE DOES NOT EXISTgE",
    "XISTSfFOREeMODYNAMICgMETERcIN GREEK CROSSfSALTIREgPACEeKING FACEdRD PLACE MEDALcONG SANDALdU",
    "GHT BALLOONcREE BUTTON MOUSEgCONSECUTIVE EQUALS SIGNSgDIMENSIONAL ANGLEhOT PUNCTUATIONgLEFTW",
    "ARDS ARROWShINES CONVERGING LEFTxRIGHTgNETWORKED COMPUTERSgPOINTED BLACK STARgRAYS ABOVElBEL",
    "OWlLEFTlRIGHThIGHTWARDS ARROWSgSPEECH BUBBLESf-D BOTTOM-LIGHTED RIGHTWARDS ARROWHEADiLEFT-LI",
    "GHTED DOWNWARDS EQUILATERAL ARROWHEADiRIGHT-LIGHTED UPWARDS EQUILATERAL ARROWHEADiTOP-LIGHTE",
    "D LEFTWARDS EQUILATERAL ARROWHEADuRIGHTWARDS ARROWHEADzgEQUILATERAL ARROWHEADgEM DASHgPER-EM",
    " SPACEcUMBS DOWN SIGNhUP SIGNdNDER CLOUD AND RAINhSTORMbIBETAN ASTROLOGICAL SIGN -KHYUD PAzb",
    "SDONG TSHUGSzcGRA GCAN -CHAR RTAGSiCANTILLATION SIGN CANG TE-UzbHEAVY BEATzbLIGHT BEATzbSBUB",
    " -CHALiDIGIT EIGHToFIVEpOURoHALF EIGHTtFIVEuOURtNINEtONEtSEVENuIXtTHREEuWOtZEROoNINEoONEoSEV",
    "ENpIXoTHREEpWOoZEROiKU RU KHAr BZHI MIG CANiLETTER -ApApBAqHApCAqHApDAqDArHAqHAqZArHApFIXED-",
    "FORM RApGAqHApHApJApKAqHAqKAqSSApLApMApNAqGAqNAqYApPAqHApRAqRApSAqHAqSApTAqHAqSArHAqTArHApWA",
    "pYApZAqHAjOGOTYPE SIGN CHAD RTAGSwLHAG RTAGSiMARK ANG KHANG GYASzaONnBKA- SHOG GI MGO RGYANx",
    "YIG MGOoSDUS RTAGSpKA- SHOG GI MGO RGYANqUR YIG MGOnCARET -DZUD RTAGS BZHI MIG CANzgME LONG ",
    "CANtYIG MGO PHUR SHAD MAoHE MGOoLOSING BRDA RNYING YIG MGO SGAB MAvYIG MGO SGAB MAnDELIMITER",
    " TSHEG BSTARnGTER TSHEGsYIG MGO -UM GTER TSHEG MAzfRNAM BCAD MAzbTRUNCATED AoUG RTAGS GYASza",
    "ONnHALANTAnINITIAL BRDA RNYING YIG MGO MDUN MAvYIG MGO MDUN MApTERSYLLABIC TSHEGnLEADING MCH",
    "AN RTAGSnMNYAM YIG GI MGO RGYANnNGAS BZUNG NYI ZLAySGOR RTAGSoYIS SHADsTSHEGx SHADnPALUTAnRG",
    "YA GRAM SHADoIN CHEN SPUNGS SHADnSBRUL SHADoHADnTRAILING MCHAN RTAGSoSA -PHRUpHEG SHADnYIG M",
    "GO TSHEG SHAD MAiSIGN GRU CAN RGYINGSrMED RGYINGSnINVERTED MCHU CANnLCE TSA CANpI RTAGSnMAR ",
    "TSHESoCHU CANnNYI ZLA NAA DAnRDEL DKAR GCIGyNYISySUMxRDEL NAGsNAG GCIGxNYISxSUMwRDEL DKARoJE",
    "S SU NGA ROoNAM BCADnSNA LDANnYANG RTAGSpR TSHESjUBJOINED LETTER -AzaAzaBAzbHAzaCAzbHAzaDAzb",
    "DAzcHAzbHAzbZAzcHAzaFIXED-FORM RAzlWAzlYAzaGAzbHAzaHAzaJAzaKAzbHAzbSSAzaLAzaMAzaNAzbGAzbNAzb",
    "YAzaPAzbHAzaRAzaSAzbHAzbSAzaTAzbHAzbSAzcHAzbTAzcHAzaWAzaYAzaZAzbHAsSIGN INVERTED MCHU CANxLC",
    "E TSA CANxMCHU CANjYLLABLE OMkMBOL DRIL BUpNOR BUv BZHI -KHYILwGSUM -KHYILwNYIS -KHYILpPADMA",
    " GDANqHUR PApRDO RJEw RGYA GRAMiVOWEL SIGN AAtEuEtIuItOuOtREVERSED IzeItUuUtVOCALIC LzdLzcRz",
    "dRcCKETcE OVER INFINITYcFINAGH CONSONANT JOINERjLETTER AHAGGAR YAZHrYER YAGHqBERBER ACADEMY ",
    "YAHziJqTAWELLEMET YAZrUAREG YAGHzbNzaHzaKzbHzaNGzaQzaZHqYAsAsBtHsCHsDtDuHtHsFsGtHuHsHtHsJsKt",
    "HuHsLsMsNsPsQsRtRsStHtSsTtHtTsVsWsYsZtHtZrEsYrIrOrUjMODIFIER LETTER LABIALIZATION MARKjSEPAR",
    "ATOR MARKcGERf FACEdHT TRIFOLIATE SNOWFLAKEcLDEf OPERATORo ABOVE LEFTWARDS ARROWvRIGHTWARDS ",
    "ARROWpWITH DOT ABOVEuRISING DOTSgWITH DOT ABOVEpBELOWlRING ABOVEcMER CLOCKeS WITH LEFT HALF ",
    "BLACKlRIGHT HALF BLACKcNYe TWO DOTS OVER ONE DOT PUNCTUATIONcRED FACEdHUTA ABBREVIATION SIGN",
    "jNJIiDIGIT EIGHToFIVEpOURoNINEoONEoSEVENpIXoTHREEpWOoZEROiGVANGiLETTER AqAqIqUpBAqHApCAqHApD",
    "AqDArHAqHApEpGAqHApHApIqIpJAqHApKAqHApLApMApNAqGAqNAqYApOpPAqHApRApSAqHAqSApTAqHAqTArHApUqUp",
    "VAqOCALIC LyLxRyRpYAiOMiSIGN ANUSVARAoVAGRAHAnCANDRABINDUnNUKTAnVIRAMApSARGAiVOWEL SIGN AAuI",
    "uUtEtIuItOtSHORT EzaOtUuUtVOCALIC LzdLzcRzdRdONIAN SIGN CAPITAL EToETbOILETcKYO TOWERcMATOcN",
    "GUEcOLBOXdTHfBRUSHcP ARC ANTICLOCKWISE ARROWzc WITH PLUSiCLOCKWISE ARROW WITH MINUSeCURLY BR",
    "ACKETeHALF BLACK CIRCLEjINTEGRALjLEFT PARENTHESISjRIGHT PARENTHESISjSECTION SIGNgTeLEFT CORN",
    "ERkROPjHALF BRACKETePARENTHESISeRIGHT CORNERlROPkHALF BRACKETeSQUARE BRACKETeTORTOISE SHELL ",
    "BRACKETeWITH UPWARDS ARROW ABOVEcRTOISE SHELL BRACKETED CJK UNIFIED IDEOGRAPH-4E09zy8Czw52DD",
    "zxB89zw6253zx557zx72Czw70B9zx6D7zaLATIN CAPITAL LETTER ScTAL RUNOUTdO LETTER AnEmBAnREATHY A",
    "EuEvOuIvUmCHAmDAmEnOmGAmHAmInUmJAmKAmLAmMAmNAnGAmOmPAmRAmSAmTAmUmWAmYAfSIGN RISING TONEbRACK",
    "BALLeTORdDE MARK SIGNdINdMe CARdNSPLUTOfVERSAL INTERSECTIONcIANGLE WITH DOT ABOVEoROUNDED CO",
    "RNERSoSERIFS AT BOTTOMoUNDERBARi-HEADED RIGHTWARDS ARROWgULAR BULLETlFLAG ON POSTlRULERdCOLO",
    "NdDENT EMBLEMdGRAM FOR EARTHmFIREmHEAVENmLAKEmMOUNTAINmTHUNDERmWATERnINDdPLE COLON OPERATORh",
    "DAGGERhHORIZONTAL BAR WITH DOUBLE VERTICAL STROKEzcTRIPLE VERTICAL STROKEhINTEGRALhNESTED GR",
    "EATER-THANoLESS-THANhPLUSiRIMEhSOLIDUS BINARY RELATIONhTILDEhVERTICAL BAR BINARY RELATIONuDE",
    "LIMITERuRIGHT TURNSTILEuWITH HORIZONTAL STROKEcOLLfEYBUSdPHYeICAL DRINKjFISHcUEe LIGHT MOON ",
    "ARTAdMPETbUGRIK SIGNcLIPcMBLER GLASScRKEYeISH LIRA SIGNdNED AMPERSANDiNGLEhBLACK PENTAGONnSH",
    "OGI PIECEhCAPITAL FiOMMAhDAGGERiIGIT THREEoWOhGREEK SMALL LETTER IOTAhNORTH EAST POINTING LE",
    "AFnWEST POINTING LEAFjT SIGNhOK HAND SIGNhSANS-SERIF CAPITAL GzbLzbYiEMICOLONiMALL FiOUTH EA",
    "ST POINTING LEAFnWEST POINTING LEAFhWHITE SHOGI PIECEdTLEbWELVE POINTED BLACK STARcISTED RIG",
    "HTWARDS ARROWScO ASTERISKS ALIGNED VERTICALLYeBUTTON MOUSEeCONSECUTIVE EQUALS SIGNSeDOT LEAD",
    "ERiPUNCTUATIONhS OVER ONE DOT PUNCTUATIONeHEARTSeINTERSECTING LOGICAL ANDzaOReJOINED SQUARES",
    "eLOGICAL AND OPERATORmOR OPERATOReMEN HOLDING HANDSeSPEECH BUBBLESeWOMEN HOLDING HANDSd-EM D",
    "ASHaUGARITIC LETTER AINrLPAqBETAqDELTArHALqGAMLArHAINqHOsTAqIqKAFrHAqLAMDAqMEMqNUNqPUqQOPAqR",
    "ASHAqSADEsMKArHINrSUqTETrHANNArOqUqWOqYODqZETArUjWORD DIVIDERbMBRELLAi ON GROUNDjWITH RAIN D",
    "ROPSbNAMUSED FACEcCERTAINTY SIGNcDERTIEdO SYMBOLcICORN FACEdONf ABOVE BAR ABOVE INTERSECTION",
    "mINTERSECTIONgBESIDE AND JOINED WITH UNIONgWITH LOGICAL ORlMINUS SIGNlOVERBARdT SEPARATOReED",
    " SYMBOLdVERSAL RECYCLING SYMBOLcMARRIED PARTNERSHIP SYMBOLbP ARROW THROUGH CIRCLEiHEADm BETW",
    "EEN TWO HORIZONTAL BARSnIN A RECTANGLE BOXdBARB LEFT DOWN BARB LEFT HARPOONxRIGHT HARPOONiRI",
    "GHT DOWN BARB LEFT HARPOONyRIGHT HARPOONdDOWN ARROWn WITH BASEiBLACK ARROWiDOUBLE ARROWiSANS",
    "-SERIF ARROWiTRIANGLE-HEADED ARROWiWHITE ARROWdFISH TAILdRIGHT DIAGONAL ELLIPSISdTACKh WITH ",
    "CIRCLE ABOVEc-POINTING AIRPLANEmMILITARY AIRPLANEmRED TRIANGLEmSMALL AIRPLANEsRED TRIANGLEmT",
    "RIANGLE WITH LEFT HALF BLACKzbRIGHT HALF BLACKcPER AND LEFT AND LOWER TRIANGULAR THREE QUART",
    "ERS BLOCKlOWER ONE EIGHTH BLOCKqTRIANGULAR HALF BLOCKkRIGHT AND LOWER TRIANGULAR THREE QUART",
    "ERS BLOCKgBLADE SCISSORSgFIVE EIGHTHS BLOCKgHALF BLOCKq AND LOWER HALF INVERSE MEDIUM SHADEl",
    "CIRCLElINVERSE MEDIUM SHADE AND LOWER HALF BLOCKtWHITE CIRCLElMEDIUM SHADEgLEFT BLOCK DIAGON",
    "AL LOWER CENTRE TO LOWER MIDDLE RIGHTzrUPPER MIDDLE RIGHTzxRIGHTzhLEFT TO LOWER MIDDLE RIGHT",
    "zpUPPER CENTREzvMIDDLE RIGHTzhMIDDLE LEFT TO UPPER CENTREzzdMIDDLE RIGHTzzdRIGHTzbUPPER MIDD",
    "LE LEFT TO UPPER CENTREzzdRIGHTlCORNER WITH DOTlOR LOWER RIGHT CURLY BRACKET SECTIONlQUADRAN",
    "T CIRCULAR ARClTO LOWER RIGHT FILLmRIANGLErULAR MEDIUM SHADEgONE EIGHTH BLOCKkQUARTER BLOCKg",
    "RIGHT BLOCK DIAGONAL LOWER MIDDLE LEFT TO LOWER CENTREzzeRIGHTzcUPPER CENTRE TO LOWER MIDDLE",
    " RIGHTzyRIGHTzsUPPER MIDDLE RIGHTziLEFT TO LOWER CENTREzwMIDDLE RIGHTzqUPPER MIDDLE RIGHTziM",
    "IDDLE LEFT TO LOWER CENTREzzeMIDDLE RIGHTzzeRIGHTmDROP-SHADOWED WHITE SQUAREmOR LOWER LEFT C",
    "URLY BRACKET SECTIONmPENCILmQUADRANT CIRCULAR ARCmSHADOWED WHITE CIRCLEzcSQUAREmTO LOWER LEF",
    "T FILLnRIANGLEsULAR MEDIUM SHADEgSEVEN EIGHTHS BLOCKgTHREE EIGHTHS BLOCKmQUARTERS BLOCKhRIAN",
    "GULAR ONE QUARTER BLOCKcSIDE-DOWN FACEcWARDS ANCORAjRROWn AND RIGHT ONE EIGHTH BLOCKoFROM BA",
    "RoLEFTWARDS OF DOWNWARDS ARROWoTO BARoWITH DOUBLE STROKEtEQUILATERAL ARROWHEADtHORIZONTAL ST",
    "ROKEtLARGE TRIANGLE ARROWHEADtMEDIUM TRIANGLE ARROWHEADtNOTCHED TAILtSMALL EQUILATERAL ARROW",
    "HEADzaTRIANGLE ARROWHEADtTIP LEFTWARDSxRIGHTWARDSiBLACK ARROWoCIRCLED WHITE ARROWiCOMPRESSED",
    " ARROWiDASHED ARROWjOUBLE ARROWiFINGER-POST ARROWiHARPOON WITH BARB LEFT BESIDE DOWNWARDS HA",
    "RPOON WITH BARB RIGHTznUPWARDS HARPOON WITH BARB RIGHTzgFROM BARzgTO BARzfWARDSzbRIGHT FROM ",
    "BARzhTO BARzgWARDSjEAVY ARROWoCOMPRESSED ARROWiPAIRED ARROWSiQUADRUPLE ARROWiROCKETiSANS-SER",
    "IF ARROWjQUARED ARROWiTRIANGLE ARROWHEADq-HEADED ARROWze LEFTWARDS OF DOWNWARDS TRIANGLE-HEA",
    "DED ARROWzfTO BARzfWITH BOLD SHAFTzkDOUBLE HORIZONTAL STROKEzkHEAVY SHAFTzkLONG TIP LEFTWARD",
    "SztRIGHTWARDSzkMEDIUM SHAFTzkNARROW SHAFTzkVERY HEAVY SHAFTyDASHED ARROWyPAIRED ARROWSlPLE A",
    "RROWjWO HEADED ARROWl-HEADED ARROW FROM SMALL CIRCLEzaWITH TRIANGLE ARROWHEADSiWHITE ARROWt ",
    "FROM BARzd WITH HORIZONTAL BARuON PEDESTALzg WITH HORIZONTAL BARzmVERTICAL BARuWITHIN TRIANG",
    "LE ARROWHEADoDOUBLE ARROWzb ON PEDESTALbRANUSbSaVAI COMMAeDIGIT EIGHTkFIVElOURkNINEkONEkSEVE",
    "NlIXkTHREElWOkZEROeFULL STOPeQUESTION MARKeSYLLABLE AoNnBAoEpEoHApEqEpIpOqOpUoIoOpOoUnCAoEpE",
    "oIoOpOoUnDAoEpEoHApEqEpHAqErEqIqOrOqUpIpOqOpUoIoOpOoUnEoEpNoNnFAoEpEoIoOpOoUnGAoBApEqEqNpIpO",
    "qNqOpUoEpEpNoIoOpOoUnHApNoEpEpNoIpNoOpNpOoUpNnIoNnJAoEpEoIoOpOoUnKApNoEpEoIoOpOoPAqNpEqEqNpI",
    "pOqOpUoUnLAoEpEpNGTHENERoIoOpOoUnMAoBApEqEpIpOqOpUoEpEoGBAqErEqIqOrOqUoIoOpOoUnNAoDApEqEpIpO",
    "qLE DOtFAtKAtMAtSOOqOpUoEpEoGpANpENpGAqErErNqIqOrOqUpONoIoJApEqEpIpOqOpUoOpOoUoYApEqEpIpOqOp",
    "UnOoNoOpNnPAoEpEoIoOpOoUnRAoEpEoIoOpOoUnSAoEpEoHApEqEpIpOqOpUoIoOpOoUnTAoEpEoHApEqEpIpOqOpUo",
    "IoOpOoUnUoNnVAoEpEoIoOpOoUnWApNoEpEqNpNoIpNoOpNpOqNoUpNnYAoEpEoIoOpOoUnZAoEpEoHApEqEpIpOqOpU",
    "oIoOpOoUgMBOL BANGlDANGmO-OnONGlFAAmEENGlJONGlKEENGmUNGlNIIlTAAmINGmONGcMPIREcRIATION SELECT",
    "OR-1u0v0v1v2v3v4v5v6v7v8v9u1v0v1v2v3v4v5v6v7v8v9u2v0v1v2v3v4v5v6v7v8v9u3v0v1v2v3v4v5v6v7v8v9",
    "u4v0v1v2v3v4v5v6v7v8v9u5v0v1v2v3v4v5v6v7v8v9u6v0v1v2v3v4v5v6v7v8v9u7v0v1v2v3v4v5v6v7v8v9u8v0",
    "v1v2v3v4v5v6v7v8v9u9v0v1v2v3v4v5v6v7v8v9t2u0v0v1v2v3v4v5v6v7v8v9u1v0v1v2v3v4v5v6v7v8v9u2v0v1",
    "v2v3v4v5v6v7v8v9u3v0v1v2v3v4v5v6v7v8v9u4v0v1v2v3v4v5v6v7v8v9u5v0v1v2v3v4v5v6u6u7u8u9t3u0u1u2",
    "u3u4u5u6u7u8u9t4u0u1u2u3u4u5u6u7u8u9t5u0u1u2u3u4u5u6u7u8u9t6u0u1u2u3u4u5u6u7u8u9t7u0u1u2u3u4",
    "u5u6u7u8u9t8u0u1u2u3u4u5u6u7u8u9t9u0u1u2u3u4u5u6u7u8u9bECTOR OR CROSS PRODUCTcDIC SIGN ANUSV",
    "ARA ANTARGOMUKHAuBAHIRGOMUKHAuUBHAYATO MUKHAuVAMAGOMUKHAzg WITH TAILmRDHAVISARGAmTIKRAMAlDOU",
    "BLE ANUSVARA ANTARGOMUKHAlHEXIFORM LONG ANUSVARAlJIHVAMULIYAlLONG ANUSVARAlNIHSHVASAlREVERSE",
    "D VISARGA ANUDATTAzdUDATTAmOTATED ARDHAVISARGAmTHANG LONG ANUSVARAlTIRYAKlUPADHMANIYAlVISARG",
    "A ANUDATTAzc WITH TAILtSVARITAtUDATTAza WITH TAILlYAJURVEDIC MIDLINE SVARITAgTONE ATHARVAVED",
    "IC INDEPENDENT SVARITAlCANDRA ABOVEsBELOWlDOT BELOWnUBLE RING ABOVEsSVARITAlKARSHANAnTHAKA A",
    "NUDATTAlPRENKHAlRIGVEDIC KASHMIRI INDEPENDENT SVARITAnNG ABOVElSHARAlTHREE DOTS BELOWmRIPLE ",
    "SVARITAmWO DOTS BELOWlYAJURVEDIC AGGRAVATED INDEPENDENT SVARITAwINDEPENDENT SVARITAwKATHAKA ",
    "INDEPENDENT SVARITAzy SCHROEDERcRSICLEdTICAL BAR BESIDE RIGHT TRIANGLEnDOUBLE LEFT TURNSTILE",
    "nTRIPLE RIGHT TURNSTILEnWITH HORIZONTAL STROKEjELLIPSISjFOUR DOTSjIDEOGRAPHIC ITERATION MARK",
    "jKANA REPEAT MARKza LOWER HALFzbUPPER HALFvWITH VOICED SOUND MARKzs UPPER HALFjLINEn EXTENSI",
    "ONoWITH CIRCLE ABOVEzbBELOWtMIDDLE DOTjMALE WITH STROKE SIGNjONE EIGHTH BLOCK-2zb3zb4zb5zb6z",
    "b7jSIX DOTSjTAB KEYmULATIONt SETkILDEkRAFFIC LIGHTjZIGZAG LINEdY BOLD GREEK CROSSfHEAVY EIGH",
    "T POINTED BLACK STARrSPOKED ASTERISKlFIVE SPOKED ASTERISKlGREEK CROSSlREVERSE SOLIDUSlSALTIR",
    "EmIX SPOKED ASTERISKmOLIDUSlWHITE CIRCLErSQUAREfMUCH GREATER-THANkLESS-THANcSTAbIBRATION MOD",
    "EcCTORY HANDcDEO CAMERAgGAMEfCASSETTEcETNAMESE ALTERNATE READING MARK CAzjNHAYdWDATA SQUAREc",
    "OLINcRGOcTHKUQI CAPITAL LETTER AyBBEzaEyCEzaHEyDEzaHEyEzaIyFEyGAyHAzaHAyIzaJEyJEyKAyLAzaLAyM",
    "EyNEzaJEyOyPEyQAyREySEzaHEyTEzaHEyUyVEyXEyYyZEjSMALL LETTER AwBBExEwCExHEwDExHEwExIwFEwGAwHA",
    "xHAwIxJEwJEwKAwLAxLAwMEwNExJEwOwPEwQAwREwSExHEwTExHEwUwVEwXEwYwZEbOIDED GREEK CROSScLCANOdLE",
    "YBALLdUME INTEGRALbS1d0e0e1e2e3e4e5e6e7e8e9d1e0e1e2e3e4e5e6e7e8e9d2e0e1e2e3e4e5e6e7e8e9d3e0e",
    "1e2e3e4e5e6e7e8e9d4e0e1e2e3e4e5e6e7e8e9d5e0e1e2e3e4e5e6e7e8e9d6e0e1e2e3e4e5e6e7e8e9d7e0e1e2e",
    "3e4e5e6e7e8e9d8e0e1e2e3e4e5e6e7e8e9d9e0e1e2e3e4e5e6e7e8e9c2d0e0e1e2e3e4e5e6e7e8e9d1e0e1e2e3e",
    "4e5e6e7e8e9d2e0e1e2e3e4e5e6e7e8e9d3e0e1e2e3e4e5e6e7e8e9d4e0e1e2e3e4e5e6e7e8e9d5e0e1e2e3e4e5e",
    "6d6d7d8d9c3d0d1d2d3d4d5d6d7d8d9c4d0d1d2d3d4d5d6d7d8d9c5d0d1d2d3d4d5d6d7d8d9c6d0d1d2d3d4d5d6d",
    "7d8d9c7d0d1d2d3d4d5d6d7d8d9c8d0d1d2d3d4d5d6d7d8d9c9d0d1d2d3d4d5d6d7d8d9bTcSbULCANUSdGAR FRAC",
    "TION FIVE EIGHTHSvSIXTHSrOUR FIFTHSqONE EIGHTHuFIFTHuHALFuNINTHuQUARTERuSEVENTHvIXTHuTENTHvH",
    "IRDqSEVEN EIGHTHSqTHREE EIGHTHSwFIFTHSwQUARTERSrWO FIFTHSuTHIRDSqZERO THIRDSaWAFFLEcNCHO DIG",
    "IT EIGHTnFIVEoOURnNINEnONEnSEVENoIXnTHREEoWOnZEROhLETTER ApAqNrGpNGpUoBAoCAoDAoEpNoFAoGAoHAo",
    "IpNGoJAoKApHAoLApLHAoMAoNApGApYAoOpNqGoPApHAoRAoSApHAoTApHApRApSAoUpENoVAoWAoYApIHoZAhNGUN S",
    "IGNhTONE KOIpNImTUPpNIdING CRESCENT MOON SYMBOLhGIBBOUS MOON SYMBOLcRANG CITI CAPITAL LETTER",
    " AzdMzdNGzdTzcBUzcDAzcEzdNNzeYzcGAzcHARzdIYOzdOLOzeRRzcIIzcKOzcNGAAzdUNGzcOzdDDzcPUzcSIIzdSU",
    "UzcTTEzcUCzdUzcVIYOzcWIzcYAzdOzdUzeJmDIGIT EIGHTsFIVEtOURsNINEsONEsSEVENtIXsTHREEtWOsZEROmNU",
    "MBER EIGHTYtFIFTYuORTYtNINETYtSEVENTYuIXTYtTENuHIRTYuWENTYmOMmSMALL LETTER AzbMzbNGzbTzaBUza",
    "DAzaEzbNNzcYzaGAzaHARzbIYOzbOLOzcRRzaIIzaKOzaNGAAzbUNGzaOzbDDzaPUzaSIIzbSUUzaTTEzaUCzbUzaVIY",
    "OzaWIzaYAzbOzbUzcJdNING SIGNcSTEBASKETcTCHdER BUFFALOgCLOSETgPOLOgWAVEfMELONcVE ARROW POINTI",
    "NG DIRECTLY LEFTzeRIGHTfDASHdING BLACK FLAGhHAND SIGNhWHITE FLAGdY DASHfLINEgOW LINEfOVERLIN",
    "EcXING CRESCENT MOON SYMBOLhGIBBOUS MOON SYMBOLbEARY CAT FACEgFACEcDDINGdGE-TAILED RIGHTWARD",
    "S ARROWcIERSTRASS ELLIPTIC FUNCTIONdGHT LIFTERcST SYRIAC CROSSbHALEcEELf OF DHARMAfCHAIR SYM",
    "BOLcITE ARROW SHAFT WIDTH ONEyTWO THIRDSgBULLETgCHESS BISHOPs ROTATED NINETY DEGREESzcTWO HU",
    "NDRED SEVENTY DEGREESmEQUIHOPPERw ROTATED NINETY DEGREESmKINGq ROTATED NINETY DEGREESzaTWO H",
    "UNDRED SEVENTY DEGREESnNIGHTs ROTATED FORTY-FIVE DEGREESzcNINETY DEGREESzcONE HUNDRED THIRTY",
    "-FIVE DEGREESzcTHREE HUNDRED FIFTEEN DEGREESzdWO HUNDRED SEVENTY DEGREESzoTWENTY-FIVE DEGREE",
    "Ss-BISHOPtQUEENtROOKmPAWNq ROTATED NINETY DEGREESzaTWO HUNDRED SEVENTY DEGREESmQUEENr ROTATE",
    "D NINETY DEGREESzbTWO HUNDRED SEVENTY DEGREESmROOKq ROTATED NINETY DEGREESzaTWO HUNDRED SEVE",
    "NTY DEGREESmTURNED BISHOPtKINGuNIGHTtPAWNtQUEENtROOKhIRCLEm CONTAINING BLACK SMALL CIRCLEnWI",
    "TH DOT RIGHTuWN ARROWsLOWER LEFT QUADRANTyRIGHT QUADRANTsTWO DOTSsUPPER LEFT QUADRANTyRIGHT ",
    "QUADRANThLUB SUIThONCAVE-SIDED DIAMONDzc WITH LEFTWARDS TICKziRIGHTWARDS TICKgDIAMONDn CONTA",
    "INING BLACK MEDIUM DIAMONDzgSMALL DIAMONDzgVERY SMALL DIAMONDoIN SQUAREoSUIToWITH CENTRED DO",
    "ThOWN POINTING BACKHAND INDEXuINDEXuLEFT HAND INDEXk-POINTING SMALL TRIANGLEuTRIANGLEhRAUGHT",
    "S KINGpMANgEXCLAMATION MARK ORNAMENTgFLAGk WITH HORIZONTAL MIDDLE BLACK STRIPEiORETTEjWERhOU",
    "R POINTED CUSPtSTARhROWNING FACEgHARD SHELL FLOPPY DISKhEARTl SUITjVY CHECK MARKmSALTIRE WIT",
    "H ROUNDED CORNERSiXAGONhORIZONTAL ELLIPSEiURGLASSgLARGE SQUAREiTIN CROSShEFT LANE MERGElPOIN",
    "TING BACKHAND INDEXuINDEXk-POINTING POINTERuSMALL TRIANGLEuTRIANGLEhOZENGE CONTAINING BLACK ",
    "SMALL LOZENGEgMEDIUM DIAMONDnLOZENGEnSMALL SQUAREoQUAREoTARhOON SELENAgNIBgPARALLELOGRAMhENN",
    "ANTjTAGONgQUESTION MARK ORNAMENTgRECTANGLEhIGHT POINTING BACKHAND INDEXvINDEXl-POINTING PENT",
    "AGONwOINTERvSMALL TRIANGLEvTRIANGLEgSCISSORShESAME DOThHOGI PIECEhMALL LOZENGEmSQUAREnTARiIL",
    "ING FACEhPADE SUIThQUAREm BUTTONnCONTAINING BLACK MEDIUM SQUAREzfSMALL SQUAREzfVERY SMALL SQ",
    "UAREnWITH CENTRE VERTICAL LINEsLEFTWARDS TICKtOWER LEFT QUADRANTyRIGHT QUADRANTsRIGHTWARDS T",
    "ICKtOUNDED CORNERSsUPPER LEFT QUADRANTyRIGHT QUADRANTsVERTICAL BISECTING LINEhTARhUNj BEHIND",
    " CLOUDw WITH RAINkWITH RAYSpSMALL CLOUDgTELEPHONEhOUCHTONE TELEPHONEhRAPEZIUMiIANGLE CONTAIN",
    "ING SMALL WHITE TRIANGLEhWO-WAY LEFT WAY TRAFFICgUP POINTING BACKHAND INDEXsINDEXi-POINTING ",
    "CHEVRONsSMALL TRIANGLEsTRIANGLEzb WITH DOTgVERTICAL BARpELLIPSEpRECTANGLEjY SMALL SQUAREf-FE",
    "ATHERED RIGHTWARDS ARROWbIDE-HEADED DOWNWARDS BARB ARROWwHEAVY BARB ARROWwLIGHT BARB ARROWwM",
    "EDIUM BARB ARROWwVERY HEAVY BARB ARROWmLEFTWARDS BARB ARROWwHEAVY BARB ARROWwLIGHT BARB ARRO",
    "WwMEDIUM BARB ARROWwVERY HEAVY BARB ARROWmNORTH EAST BARB ARROWxHEAVY BARB ARROWxLIGHT BARB ",
    "ARROWxMEDIUM BARB ARROWxVERY HEAVY BARB ARROWsWEST BARB ARROWxHEAVY BARB ARROWxLIGHT BARB AR",
    "ROWxMEDIUM BARB ARROWxVERY HEAVY BARB ARROWmRIGHTWARDS BARB ARROWxHEAVY BARB ARROWxLIGHT BAR",
    "B ARROWxMEDIUM BARB ARROWxVERY HEAVY BARB ARROWmSOUTH EAST BARB ARROWxHEAVY BARB ARROWxLIGHT",
    " BARB ARROWxMEDIUM BARB ARROWxVERY HEAVY BARB ARROWsWEST BARB ARROWxHEAVY BARB ARROWxLIGHT B",
    "ARB ARROWxMEDIUM BARB ARROWxVERY HEAVY BARB ARROWmUPWARDS BARB ARROWuHEAVY BARB ARROWuLIGHT ",
    "BARB ARROWuMEDIUM BARB ARROWuVERY HEAVY BARB ARROWcGGLY VERTICAL LINEcLTED FLOWERcND BLOWING",
    " FACEfCHIMEeOWdE GLASSdKING FACEcRED KEYBOARDbJbOLF FACEcMANf WITH BUNNY EARSfS BOOTShCLOTHE",
    "ShHAThSANDALdENS SYMBOLcN SIGNcODcRD JOINERfSEPARATOR MIDDLE DOTdLD MAPdMdRIED FACEbRAPPED P",
    "RESENTcEATH PRODUCTdNCHdSTLERScITING HANDaX IN A RECTANGLE BOXb-RAYbIANGQI BLACK CANNONpHARI",
    "OToELEPHANToGENERALoHORSEoMANDARINoSOLDIERiRED CANNONnHARIOTmELEPHANTmGENERALmHORSEmMANDARIN",
    "mSOLDIERbORaYAWNING FACEbELLOW HEARTcN SIGNcZIDI COMBINING HAMZA MARKrMADDA MARKhHYPHENATION",
    " MARKhLETTER BEoCHHIMqIMpIMoDADqLoELIFpTpWpYNoFAoGAFoHAYpHAoJAoKAFpHAFoLAMr WITH DOT ABOVEoM",
    "IMoNUNoOWoPEpHEoQAFoRApHAoSADpEpHINpINoTApHEoUMoVAq ALTERNATE FORMoWAWoXApHEYNoYOTr WITH CIR",
    "CUMFLEX ABOVEoZAqLpEbI RADICAL BBUTmURlCHEmIPmUOPmYnPnTlDDURmUlGAmEPmGOPnUOmOTlHMOmXITnOPnUO",
    "lJJIEnUTnYmOlKEmITlLInEmYRlMImOPlNBIEmYIPnOPmZUPlOPlPUTmYTlQOTlSHATnOPnURnYmSIlTATmUlVEPmURl",
    "WOlYITmOlZAmOTmUPnRmZIETdSYLLABLE AnPnTnXmBAoPoToXnBApPpTpXoEpPpXoIpEqPqTqXpPpTpXoOpPpTpXoUp",
    "OqPqXpPpRqXpTpXoYpPpTpXnEoPoXnIoEpPpTpXoPoToXnOoPoToXnUoOpPpXoPoRpXoToXnYoPoRpXoToXmCAoPoToX",
    "nEoPoXnHApPpTpXoEpPpTpXoOpPpTpXoUpOqPqTqXpPpRqXpXoYpPpRqXpTpXnIoEpPpTpXoPoToXnOoPoToXnUoOpPp",
    "XoPoRpXoToXnYoPoRpXoToXmDAoPoToXnDApPpTpXoEpPpXoIpEqPqXpPpTpXoOpPpTpXoUpOqPqXpPpRqXpTpXnEoPo",
    "XnIoEpPpXoPoToXnOoPoToXnUoOpXoPoRpXoToXmEnXmFAoPoToXnIoPoToXnOoPoXnUoPoRpXoToXnYoPoToXmGAoPo",
    "ToXnEoPoToXnGApPpTpXoEpPpTpXoIpEqPqXpTpXoOpPpTpXoUpOqPqTqXpPpRqXpTpXnIoEpPpTpXoPoToXnOoPoToX",
    "nUoOpPpTpXoPoRpXoToXmHAoPoToXnEoPoXnIEpXoTnLApPpTpXoEpPpXoIpEqPqXpPpTpXoOpPpXoUpOqPqXpPpRqXp",
    "TpXoYpPpRqXpTpXnMApPpTpXoIpEqPqXpPpTpXoOpPpTpXoUpOqPqXpPpRqXpTpXoYpPpRqXpXnNApPpTpXoEpPpXoIp",
    "EqPqTqXpPpTpXoOPpTpXoUOqXpTnOoPoToXnUOpPpTpXnXApPpTpXoEpPpXoIpEqPqTqXpPpTpXoOpPpTpXoUOqPqTqX",
    "mInEoPoToXnPnToERATION MARKnXmJIoEpPpTpXoPoToXnJIpEqPqTqXpPpTpXoOpPpTpXoUpOqPqXpPpRqXpTpXoYp",
    "PpTpXnOoPoToXnUoOpPpTpXoPoRpXoToXnYoPoRpXoToXmKAoPoToXnEoPoToXnIoEpPpXoPoToXnOoPoToXnUoOpPpX",
    "oPoRpXoToXmLAoPoToXnEoPoXnIoEpPpTpXoPoToXnOoPoToXnUoOpPpTpXoPoRpXoToXnYoPoRpXoToXmMAoPoToXnE",
    "oXnGApPpTpXoEpPpXoIEqXoOpPpTpXoUpOqPqXpPpRqXpTpXnIoEpPpXoPoToXnOoPoToXnUoOpPpTpXoPoRpXoToXnY",
    "oPoToXmNAoPoXnBApPpTpXoIpEqPqXpPpTpXoOpPpTpXoUpPpRqXpTpXoYpPpRqXpTpXnDApPpTpXoEpPpXoIpEqXpPp",
    "TpXoOpPpTpXoUpPpRqXpTpXnEoPoXnGApPpTpXoEpPpXoIEqPqXoOpPpTpXoUOqTqXnIoEpPpXoPoToXnJIpEqPqTqXp",
    "PpTpXoOpPpTpXoUpOqXpPpRqXpXoYpPpRqXpTpXnOoPoToXnRApPpTpXoEpPpTpXoOpPpXoUpPpRqXpTpXoYpPpRqXpT",
    "pXnUoOpPpXoPoRpXoToXnYIpEqPqTqXpPpTpXoOpPpTpXoUpOqPqXpPpTpXnZApPpTpXoEpXoIpEqPqXpPpTpXoOPpXo",
    "UpOqXpPpRqXpXoYpPpRqXpTpXmOnPnTnXmPAoPoToXnIoEpPpXoPoToXnOoPoToXnUoOpPpXoPoRpXoToXnYoPoRpXoT",
    "oXmQIoEpPpTpXoPoToXnOoPoToXnUoOpPpTpXoPoRpXoToXnYoPoRpXoToXmRAoPoToXnEoPoXnOoPoToXnRApXoEpPp",
    "TpXoOpPpTpXoUpOqXpPpRqXpTpXoYpPpRqXpTpXnUoOpPpXoPoRpXoToXnYoPoRpXoToXmSAoPoToXnEoPoXnHApPpTp",
    "XoEpPpTpXoOpPpTpXoUpOqPqXpPpRqXpTpXoYpPpRqXpTpXnIoEpPpXoPoToXnOoPoToXnSApPpTpXoEpPpXoIpEqPqX",
    "pPpTpXoOpPpTpXoUpPpTpXoYpPpRqXpTpXnUoOpPpXoPoRpXoToXnYoPoRpXoToXmTAoPoToXnEoPoXnIoEpPpXoPoTo",
    "XnOoPoToXnUoOpPpTpXoPoRpXoToXmUOoPoXmVAoPoToXnEPoXnIoEpPpTpXoPoToXnOoPoToXnUoPoRpXoToXnYoPoR",
    "pXoToXmWAoPoToXnEoPoXnOoPoXnUoOpPpXmXIoEpPpTpXoPoToXnOoPoToXnUOpXnYoPoRpXoToXmYIoEpPpTpXoPoT",
    "oXnOoPoToXnUoOpPpTpXoPoRpXoToXnYoPoRpXoToXmZAoPoToXnEoPoXnHApPpTpXoEpPpTpXoOpPpTpXoUpOqPqXpP",
    "pRqXpTpXoYpPpRqXpTpXnIoEpPpXoPoToXnOoPoToXnUoOpPpXoPoRpXoToXnYoPoRpXoToXnZApPpTpXoEpPpXoIpEq",
    "PqTqXpPpTpXoOpPpXoUpPpRqXpXoYpPpRqXpTpXcN YANGbO-YOaZ NOTATION BAG MEMBERSHIPlDOMAIN ANTIRES",
    "TRICTIONlLEFT BINDING BRACKETqIMAGE BRACKETlRANGE ANTIRESTRICTIONmELATIONAL COMPOSITIONmIGHT",
    " BINDING BRACKETrIMAGE BRACKETlSCHEMA COMPOSITIONsPIPINGtROJECTIONmPOTlTYPE COLONbANABAZAR S",
    "QUARE CLOSING DOUBLE-LINED HEAD MARKzaHEAD MARKtUSTER-FINAL LETTER LAznRAznVAznYAzaINITIAL L",
    "ETTER RArFINAL CONSONANT MARKrINITIAL DOUBLE-LINED HEAD MARKzaHEAD MARKrLETTER -AyAyBAzaHAyC",
    "AzaHAyDAzaDAzbHAzaHAzaZAzbHAyGAzaHAyHAyJAyKAzaHAzaSSAyLAyMAyNAzaGAzaNAzaYAyPAzaHAyRAySAzaHAz",
    "aSAyTAzaHAzaSAzbHAzaTAzbHAyVAyYAyZAzaHArMARK DOUBLE SHADwLONG TSHEGwSHADwTSHEGrSIGN ANUSVARA",
    "wCANDRA WITH ORNAMENTzdBINDUzi WITH ORNAMENTwVIRAMAySARGAsUBJOINERrVOWEL LENGTH MARKxSIGN AI",
    "zeUzdEzdIzdOzeEzdREVERSED IzdUzeEbEBRA FACEcRO WIDTH JOINERlNO-BREAK SPACEnN-JOINERlSPACEcUS",
    "bIPPER-MOUTH FACEbNAMENNY COMBINING ATTACHING VERTICAL OMETtLOWER TONAL RANGE INDICATORtMARK",
    " BORZAYAyCHASHKAzg POLNAYAzaURVED OMETyDEMESTVENNY ZADERZHKAzaVOETOCHIEyGORAZDO NIZKO ON LEF",
    "TzqRIGHTznS KRYZHEM ON LEFTzzbRIGHTzhVYSOKOyKACHKAzaRYZHze ON LEFTzaUPNAYAyLOMKAyMALO POVYSH",
    "E ON LEFTzpRIGHTzmS KHOKHLOM ON LEFTzzbRIGHTzpRYZHEMznTRANNOyNIZKO ON LEFTziRIGHTzfS KRYZHEM",
    " ON LEFTzsRIGHTyOBLACHKOzaNzaTSECHKAyPODCHASHIEzj WITH VERTICAL STROKEzcVERTKAzbVYSHE ON LEF",
    "TzkRIGHTzhS KHOKHLOM ON LEFTzvRIGHTzkRYZHEMziTRANNOyRAVNOzbZSEKAySKOBAzaOROCHYA NOZHKAzaREDN",
    "E ON LEFTzjRIGHTzaTRANNO MALO POVYSHEyTIKHAYAzaOCHKAzaSATA ON LEFTziRIGHTzfS KRYZHEMyUDARKAy",
    "VYSOKO ON LEFTzjRIGHTzgS KHOKHLOM ON LEFTzuRIGHTzjRYZHEMyZADERZHKAzaELOzbVOKtTONAL RANGE MAR",
    "K MRACHNOzlSVETLOzlTRESVETLOjNEUME CHASHKArELYUSTKApDEMESTVENNY KLYUCHrRBITSAqOUBLE ZAPYATAY",
    "AqUDAqVA V CHELNUpFITApGOLUBCHIK BORZYzaMRACHNYzaSVETLYzaTIKHYzbRESVETLYpKHAMILOqLYUCHqOBYLA",
    "qRYUKu TIKHYsZHqUFISMApMECHIKv KLYUCHENEPOSTOYANNYzePOVODNYzeVOYwPOVODNYpNEMKApOBLAKOqSOKAu ",
    "KLYUCHEVAYA NEPOSTOYANNAYAziSVETLAYAwRYUKOVAYA SVETLAYAvSVETLAYAvTRESVETLAYApPALKArRAKLITrUK",
    "qEREVODKAy NEPOSTOYANNAYAqODCHASHIErLKULIZMYpREVERSED CHELYUSTKAqOGpSKAMEYTSA DVOECHELNAYA K",
    "LYUCHEVAYAznNEPOSTOYANNAYAznPROSTAYAznSVETLAYAzaKLYUCHENEPOSTOYANNAYAzhVAYA SVETLAYAzmTIKHAY",
    "AzaMRACHNAYAzaSVETLAYAzaTIKHAYAzbRESVETLAYAqLOZHITIEy S KRYZHEMzcZAPYATOYzaZAKRYTOEqTATYAv N",
    "EPOSTOYANNAYAwS DVUMYA ZAPYATYMIyKRYZHEMzg I ZAPYATOYyROGOMyZAPYATOYzh I KRYZHEMzkPODCHASHIE",
    "MwZAKRYTAYAzg S ZAPYATOYrOPITSAx S OCHKOMyWITH SOROCHYA NOZHKArRELA DVOECHELNAYAzj KLYUCHEVA",
    "YAzgOKRYZHEVAYAzhPOVODNAYAzq KLYUCHEVAYAwGROMNAYAzf WITH SINGLE ZAPYATAYAzbOKRYZHEVAYAzm POV",
    "ODNAYAzcPOVODNAYAzl WITH DOUBLE ZAPYATAYAzrSINGLE ZAPYATAYAwKLYUCHENEPOSTOYANNAYAzePOVODNAYA",
    "xRYUKOVAYAzh GROMNAYAzq WITH SINGLE ZAPYATAYAzmOKRYZHEVAYAzx POVODNAYAznPOVODNAYAzw WITH DOU",
    "BLE ZAPYATAYAzzdSINGLE ZAPYATAYAziPOVODNAYAziTRYASKAzaZHEVAYAwMRACHNOTIKHAYAwNEPOSTOYANNAYAw",
    "POLUPOVODNAYAyVODNAYAxROSTAYAwTIKHAYA PUTNAYAxRYASOGLASNAYAzdPOVODNAYAzdSTRELNAYApVRAKHIYA K",
    "LYUCHEVAYA MRACHNAYAzlPROSTAYAzlSVETLAYAzlTRESVETLAYAyMRACHNAYAyPROSTAYAySVETLAYAyTRESVETLAY",
    "ApZANOZHEKrPYATAYAqMEYTSAjPRIZNAK MODIFIER DIRECTION FLIPzbKRYZHzbLEVEL-2zh3zbROGbOMBIEbWJcN",
    "BSPdJcSP"]

end Text

end GrammarCorpus

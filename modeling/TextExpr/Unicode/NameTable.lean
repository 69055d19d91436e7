/-! Names of characters, block by block. A name begins with a letter that tells how many
words it shares with the one before, from `a` for none; `@` gives the code of the next
name, and other names follow each other. -/
namespace TextExpr.Unicode

/-- The names of Latin, Greek and Cyrillic. -/
def latinNames : String := "@20,aSPACE,aEXCLAMATION MARK,aQUOTATION MARK,aNUMBER SIGN,aDOLLAR SIGN,aPERCENT SIGN,aAMPERSAND,
aAPOSTROPHE,aLEFT PARENTHESIS,aRIGHT PARENTHESIS,aASTERISK,aPLUS SIGN,aCOMMA,aHYPHEN-MINUS,
aFULL STOP,aSOLIDUS,aDIGIT ZERO,bONE,bTWO,bTHREE,bFOUR,bFIVE,bSIX,bSEVEN,bEIGHT,bNINE,aCOLON,
aSEMICOLON,aLESS-THAN SIGN,aEQUALS SIGN,aGREATER-THAN SIGN,aQUESTION MARK,aCOMMERCIAL AT,
aLATIN CAPITAL LETTER A,dB,dC,dD,dE,dF,dG,dH,dI,dJ,dK,dL,dM,dN,dO,dP,dQ,dR,dS,dT,dU,dV,dW,dX,dY,
dZ,aLEFT SQUARE BRACKET,aREVERSE SOLIDUS,aRIGHT SQUARE BRACKET,aCIRCUMFLEX ACCENT,aLOW LINE,
aGRAVE ACCENT,aLATIN SMALL LETTER A,dB,dC,dD,dE,dF,dG,dH,dI,dJ,dK,dL,dM,dN,dO,dP,dQ,dR,dS,dT,dU,
dV,dW,dX,dY,dZ,aLEFT CURLY BRACKET,aVERTICAL LINE,aRIGHT CURLY BRACKET,aTILDE,@A0,
aNO-BREAK SPACE,aINVERTED EXCLAMATION MARK,aCENT SIGN,aPOUND SIGN,aCURRENCY SIGN,aYEN SIGN,
aBROKEN BAR,aSECTION SIGN,aDIAERESIS,aCOPYRIGHT SIGN,aFEMININE ORDINAL INDICATOR,
aLEFT-POINTING DOUBLE ANGLE QUOTATION MARK,aNOT SIGN,aSOFT HYPHEN,aREGISTERED SIGN,aMACRON,
aDEGREE SIGN,aPLUS-MINUS SIGN,aSUPERSCRIPT TWO,bTHREE,aACUTE ACCENT,aMICRO SIGN,aPILCROW SIGN,
aMIDDLE DOT,aCEDILLA,aSUPERSCRIPT ONE,aMASCULINE ORDINAL INDICATOR,
aRIGHT-POINTING DOUBLE ANGLE QUOTATION MARK,aVULGAR FRACTION ONE QUARTER,dHALF,cTHREE QUARTERS,
aINVERTED QUESTION MARK,aLATIN CAPITAL LETTER A WITH GRAVE,fACUTE,fCIRCUMFLEX,fTILDE,fDIAERESIS,
fRING ABOVE,dAE,dC WITH CEDILLA,dE WITH GRAVE,fACUTE,fCIRCUMFLEX,fDIAERESIS,dI WITH GRAVE,fACUTE,
fCIRCUMFLEX,fDIAERESIS,dETH,dN WITH TILDE,dO WITH GRAVE,fACUTE,fCIRCUMFLEX,fTILDE,fDIAERESIS,
aMULTIPLICATION SIGN,aLATIN CAPITAL LETTER O WITH STROKE,dU WITH GRAVE,fACUTE,fCIRCUMFLEX,
fDIAERESIS,dY WITH ACUTE,dTHORN,bSMALL LETTER SHARP S,dA WITH GRAVE,fACUTE,fCIRCUMFLEX,fTILDE,
fDIAERESIS,fRING ABOVE,dAE,dC WITH CEDILLA,dE WITH GRAVE,fACUTE,fCIRCUMFLEX,fDIAERESIS,
dI WITH GRAVE,fACUTE,fCIRCUMFLEX,fDIAERESIS,dETH,dN WITH TILDE,dO WITH GRAVE,fACUTE,fCIRCUMFLEX,
fTILDE,fDIAERESIS,aDIVISION SIGN,aLATIN SMALL LETTER O WITH STROKE,dU WITH GRAVE,fACUTE,
fCIRCUMFLEX,fDIAERESIS,dY WITH ACUTE,dTHORN,dY WITH DIAERESIS,bCAPITAL LETTER A WITH MACRON,
bSMALL LETTER A WITH MACRON,bCAPITAL LETTER A WITH BREVE,bSMALL LETTER A WITH BREVE,
bCAPITAL LETTER A WITH OGONEK,bSMALL LETTER A WITH OGONEK,bCAPITAL LETTER C WITH ACUTE,
bSMALL LETTER C WITH ACUTE,bCAPITAL LETTER C WITH CIRCUMFLEX,bSMALL LETTER C WITH CIRCUMFLEX,
bCAPITAL LETTER C WITH DOT ABOVE,bSMALL LETTER C WITH DOT ABOVE,bCAPITAL LETTER C WITH CARON,
bSMALL LETTER C WITH CARON,bCAPITAL LETTER D WITH CARON,bSMALL LETTER D WITH CARON,
bCAPITAL LETTER D WITH STROKE,bSMALL LETTER D WITH STROKE,bCAPITAL LETTER E WITH MACRON,
bSMALL LETTER E WITH MACRON,bCAPITAL LETTER E WITH BREVE,bSMALL LETTER E WITH BREVE,
bCAPITAL LETTER E WITH DOT ABOVE,bSMALL LETTER E WITH DOT ABOVE,bCAPITAL LETTER E WITH OGONEK,
bSMALL LETTER E WITH OGONEK,bCAPITAL LETTER E WITH CARON,bSMALL LETTER E WITH CARON,
bCAPITAL LETTER G WITH CIRCUMFLEX,bSMALL LETTER G WITH CIRCUMFLEX,bCAPITAL LETTER G WITH BREVE,
bSMALL LETTER G WITH BREVE,bCAPITAL LETTER G WITH DOT ABOVE,bSMALL LETTER G WITH DOT ABOVE,
bCAPITAL LETTER G WITH CEDILLA,bSMALL LETTER G WITH CEDILLA,bCAPITAL LETTER H WITH CIRCUMFLEX,
bSMALL LETTER H WITH CIRCUMFLEX,bCAPITAL LETTER H WITH STROKE,bSMALL LETTER H WITH STROKE,
bCAPITAL LETTER I WITH TILDE,bSMALL LETTER I WITH TILDE,bCAPITAL LETTER I WITH MACRON,
bSMALL LETTER I WITH MACRON,bCAPITAL LETTER I WITH BREVE,bSMALL LETTER I WITH BREVE,
bCAPITAL LETTER I WITH OGONEK,bSMALL LETTER I WITH OGONEK,bCAPITAL LETTER I WITH DOT ABOVE,
bSMALL LETTER DOTLESS I,bCAPITAL LIGATURE IJ,bSMALL LIGATURE IJ,
bCAPITAL LETTER J WITH CIRCUMFLEX,bSMALL LETTER J WITH CIRCUMFLEX,bCAPITAL LETTER K WITH CEDILLA,
bSMALL LETTER K WITH CEDILLA,dKRA,bCAPITAL LETTER L WITH ACUTE,bSMALL LETTER L WITH ACUTE,
bCAPITAL LETTER L WITH CEDILLA,bSMALL LETTER L WITH CEDILLA,bCAPITAL LETTER L WITH CARON,
bSMALL LETTER L WITH CARON,bCAPITAL LETTER L WITH MIDDLE DOT,bSMALL LETTER L WITH MIDDLE DOT,
bCAPITAL LETTER L WITH STROKE,bSMALL LETTER L WITH STROKE,bCAPITAL LETTER N WITH ACUTE,
bSMALL LETTER N WITH ACUTE,bCAPITAL LETTER N WITH CEDILLA,bSMALL LETTER N WITH CEDILLA,
bCAPITAL LETTER N WITH CARON,bSMALL LETTER N WITH CARON,ePRECEDED BY APOSTROPHE,
bCAPITAL LETTER ENG,bSMALL LETTER ENG,bCAPITAL LETTER O WITH MACRON,bSMALL LETTER O WITH MACRON,
bCAPITAL LETTER O WITH BREVE,bSMALL LETTER O WITH BREVE,bCAPITAL LETTER O WITH DOUBLE ACUTE,
bSMALL LETTER O WITH DOUBLE ACUTE,bCAPITAL LIGATURE OE,bSMALL LIGATURE OE,
bCAPITAL LETTER R WITH ACUTE,bSMALL LETTER R WITH ACUTE,bCAPITAL LETTER R WITH CEDILLA,
bSMALL LETTER R WITH CEDILLA,bCAPITAL LETTER R WITH CARON,bSMALL LETTER R WITH CARON,
bCAPITAL LETTER S WITH ACUTE,bSMALL LETTER S WITH ACUTE,bCAPITAL LETTER S WITH CIRCUMFLEX,
bSMALL LETTER S WITH CIRCUMFLEX,bCAPITAL LETTER S WITH CEDILLA,bSMALL LETTER S WITH CEDILLA,
bCAPITAL LETTER S WITH CARON,bSMALL LETTER S WITH CARON,bCAPITAL LETTER T WITH CEDILLA,
bSMALL LETTER T WITH CEDILLA,bCAPITAL LETTER T WITH CARON,bSMALL LETTER T WITH CARON,
bCAPITAL LETTER T WITH STROKE,bSMALL LETTER T WITH STROKE,bCAPITAL LETTER U WITH TILDE,
bSMALL LETTER U WITH TILDE,bCAPITAL LETTER U WITH MACRON,bSMALL LETTER U WITH MACRON,
bCAPITAL LETTER U WITH BREVE,bSMALL LETTER U WITH BREVE,bCAPITAL LETTER U WITH RING ABOVE,
bSMALL LETTER U WITH RING ABOVE,bCAPITAL LETTER U WITH DOUBLE ACUTE,
bSMALL LETTER U WITH DOUBLE ACUTE,bCAPITAL LETTER U WITH OGONEK,bSMALL LETTER U WITH OGONEK,
bCAPITAL LETTER W WITH CIRCUMFLEX,bSMALL LETTER W WITH CIRCUMFLEX,
bCAPITAL LETTER Y WITH CIRCUMFLEX,bSMALL LETTER Y WITH CIRCUMFLEX,
bCAPITAL LETTER Y WITH DIAERESIS,dZ WITH ACUTE,bSMALL LETTER Z WITH ACUTE,
bCAPITAL LETTER Z WITH DOT ABOVE,bSMALL LETTER Z WITH DOT ABOVE,bCAPITAL LETTER Z WITH CARON,
bSMALL LETTER Z WITH CARON,dLONG S,dB WITH STROKE,bCAPITAL LETTER B WITH HOOK,fTOPBAR,
bSMALL LETTER B WITH TOPBAR,bCAPITAL LETTER TONE SIX,bSMALL LETTER TONE SIX,
bCAPITAL LETTER OPEN O,dC WITH HOOK,bSMALL LETTER C WITH HOOK,bCAPITAL LETTER AFRICAN D,
dD WITH HOOK,fTOPBAR,bSMALL LETTER D WITH TOPBAR,dTURNED DELTA,bCAPITAL LETTER REVERSED E,dSCHWA,
dOPEN E,dF WITH HOOK,bSMALL LETTER F WITH HOOK,bCAPITAL LETTER G WITH HOOK,dGAMMA,
bSMALL LETTER HV,bCAPITAL LETTER IOTA,dI WITH STROKE,dK WITH HOOK,bSMALL LETTER K WITH HOOK,
dL WITH BAR,dLAMBDA WITH STROKE,bCAPITAL LETTER TURNED M,dN WITH LEFT HOOK,
bSMALL LETTER N WITH LONG RIGHT LEG,bCAPITAL LETTER O WITH MIDDLE TILDE,fHORN,
bSMALL LETTER O WITH HORN,bCAPITAL LETTER OI,bSMALL LETTER OI,bCAPITAL LETTER P WITH HOOK,
bSMALL LETTER P WITH HOOK,bLETTER YR,bCAPITAL LETTER TONE TWO,bSMALL LETTER TONE TWO,
bCAPITAL LETTER ESH,bLETTER REVERSED ESH LOOP,bSMALL LETTER T WITH PALATAL HOOK,
bCAPITAL LETTER T WITH HOOK,bSMALL LETTER T WITH HOOK,bCAPITAL LETTER T WITH RETROFLEX HOOK,
dU WITH HORN,bSMALL LETTER U WITH HORN,bCAPITAL LETTER UPSILON,dV WITH HOOK,dY WITH HOOK,
bSMALL LETTER Y WITH HOOK,bCAPITAL LETTER Z WITH STROKE,bSMALL LETTER Z WITH STROKE,
bCAPITAL LETTER EZH,eREVERSED,bSMALL LETTER EZH REVERSED,eWITH TAIL,bLETTER TWO WITH STROKE,
bCAPITAL LETTER TONE FIVE,bSMALL LETTER TONE FIVE,bLETTER INVERTED GLOTTAL STOP WITH STROKE,
cWYNN,cDENTAL CLICK,cLATERAL CLICK,cALVEOLAR CLICK,cRETROFLEX CLICK,
bCAPITAL LETTER DZ WITH CARON,dD WITH SMALL LETTER Z WITH CARON,bSMALL LETTER DZ WITH CARON,
bCAPITAL LETTER LJ,dL WITH SMALL LETTER J,bSMALL LETTER LJ,bCAPITAL LETTER NJ,
dN WITH SMALL LETTER J,bSMALL LETTER NJ,bCAPITAL LETTER A WITH CARON,bSMALL LETTER A WITH CARON,
bCAPITAL LETTER I WITH CARON,bSMALL LETTER I WITH CARON,bCAPITAL LETTER O WITH CARON,
bSMALL LETTER O WITH CARON,bCAPITAL LETTER U WITH CARON,bSMALL LETTER U WITH CARON,
bCAPITAL LETTER U WITH DIAERESIS AND MACRON,bSMALL LETTER U WITH DIAERESIS AND MACRON,
bCAPITAL LETTER U WITH DIAERESIS AND ACUTE,bSMALL LETTER U WITH DIAERESIS AND ACUTE,
bCAPITAL LETTER U WITH DIAERESIS AND CARON,bSMALL LETTER U WITH DIAERESIS AND CARON,
bCAPITAL LETTER U WITH DIAERESIS AND GRAVE,bSMALL LETTER U WITH DIAERESIS AND GRAVE,dTURNED E,
bCAPITAL LETTER A WITH DIAERESIS AND MACRON,bSMALL LETTER A WITH DIAERESIS AND MACRON,
bCAPITAL LETTER A WITH DOT ABOVE AND MACRON,bSMALL LETTER A WITH DOT ABOVE AND MACRON,
bCAPITAL LETTER AE WITH MACRON,bSMALL LETTER AE WITH MACRON,bCAPITAL LETTER G WITH STROKE,
bSMALL LETTER G WITH STROKE,bCAPITAL LETTER G WITH CARON,bSMALL LETTER G WITH CARON,
bCAPITAL LETTER K WITH CARON,bSMALL LETTER K WITH CARON,bCAPITAL LETTER O WITH OGONEK,
bSMALL LETTER O WITH OGONEK,bCAPITAL LETTER O WITH OGONEK AND MACRON,
bSMALL LETTER O WITH OGONEK AND MACRON,bCAPITAL LETTER EZH WITH CARON,
bSMALL LETTER EZH WITH CARON,dJ WITH CARON,bCAPITAL LETTER DZ,dD WITH SMALL LETTER Z,
bSMALL LETTER DZ,bCAPITAL LETTER G WITH ACUTE,bSMALL LETTER G WITH ACUTE,bCAPITAL LETTER HWAIR,
dWYNN,dN WITH GRAVE,bSMALL LETTER N WITH GRAVE,bCAPITAL LETTER A WITH RING ABOVE AND ACUTE,
bSMALL LETTER A WITH RING ABOVE AND ACUTE,bCAPITAL LETTER AE WITH ACUTE,
bSMALL LETTER AE WITH ACUTE,bCAPITAL LETTER O WITH STROKE AND ACUTE,
bSMALL LETTER O WITH STROKE AND ACUTE,bCAPITAL LETTER A WITH DOUBLE GRAVE,
bSMALL LETTER A WITH DOUBLE GRAVE,bCAPITAL LETTER A WITH INVERTED BREVE,
bSMALL LETTER A WITH INVERTED BREVE,bCAPITAL LETTER E WITH DOUBLE GRAVE,
bSMALL LETTER E WITH DOUBLE GRAVE,bCAPITAL LETTER E WITH INVERTED BREVE,
bSMALL LETTER E WITH INVERTED BREVE,bCAPITAL LETTER I WITH DOUBLE GRAVE,
bSMALL LETTER I WITH DOUBLE GRAVE,bCAPITAL LETTER I WITH INVERTED BREVE,
bSMALL LETTER I WITH INVERTED BREVE,bCAPITAL LETTER O WITH DOUBLE GRAVE,
bSMALL LETTER O WITH DOUBLE GRAVE,bCAPITAL LETTER O WITH INVERTED BREVE,
bSMALL LETTER O WITH INVERTED BREVE,bCAPITAL LETTER R WITH DOUBLE GRAVE,
bSMALL LETTER R WITH DOUBLE GRAVE,bCAPITAL LETTER R WITH INVERTED BREVE,
bSMALL LETTER R WITH INVERTED BREVE,bCAPITAL LETTER U WITH DOUBLE GRAVE,
bSMALL LETTER U WITH DOUBLE GRAVE,bCAPITAL LETTER U WITH INVERTED BREVE,
bSMALL LETTER U WITH INVERTED BREVE,bCAPITAL LETTER S WITH COMMA BELOW,
bSMALL LETTER S WITH COMMA BELOW,bCAPITAL LETTER T WITH COMMA BELOW,
bSMALL LETTER T WITH COMMA BELOW,bCAPITAL LETTER YOGH,bSMALL LETTER YOGH,
bCAPITAL LETTER H WITH CARON,bSMALL LETTER H WITH CARON,bCAPITAL LETTER N WITH LONG RIGHT LEG,
bSMALL LETTER D WITH CURL,bCAPITAL LETTER OU,bSMALL LETTER OU,bCAPITAL LETTER Z WITH HOOK,
bSMALL LETTER Z WITH HOOK,bCAPITAL LETTER A WITH DOT ABOVE,bSMALL LETTER A WITH DOT ABOVE,
bCAPITAL LETTER E WITH CEDILLA,bSMALL LETTER E WITH CEDILLA,
bCAPITAL LETTER O WITH DIAERESIS AND MACRON,bSMALL LETTER O WITH DIAERESIS AND MACRON,
bCAPITAL LETTER O WITH TILDE AND MACRON,bSMALL LETTER O WITH TILDE AND MACRON,
bCAPITAL LETTER O WITH DOT ABOVE,bSMALL LETTER O WITH DOT ABOVE,
bCAPITAL LETTER O WITH DOT ABOVE AND MACRON,bSMALL LETTER O WITH DOT ABOVE AND MACRON,
bCAPITAL LETTER Y WITH MACRON,bSMALL LETTER Y WITH MACRON,dL WITH CURL,dN WITH CURL,dT WITH CURL,
dDOTLESS J,dDB DIGRAPH,dQP DIGRAPH,bCAPITAL LETTER A WITH STROKE,dC WITH STROKE,
bSMALL LETTER C WITH STROKE,bCAPITAL LETTER L WITH BAR,dT WITH DIAGONAL STROKE,
bSMALL LETTER S WITH SWASH TAIL,dZ WITH SWASH TAIL,bCAPITAL LETTER GLOTTAL STOP,
bSMALL LETTER GLOTTAL STOP,bCAPITAL LETTER B WITH STROKE,dU BAR,dTURNED V,dE WITH STROKE,
bSMALL LETTER E WITH STROKE,bCAPITAL LETTER J WITH STROKE,bSMALL LETTER J WITH STROKE,
bCAPITAL LETTER SMALL Q WITH HOOK TAIL,bSMALL LETTER Q WITH HOOK TAIL,
bCAPITAL LETTER R WITH STROKE,bSMALL LETTER R WITH STROKE,bCAPITAL LETTER Y WITH STROKE,
bSMALL LETTER Y WITH STROKE,dTURNED A,dALPHA,dTURNED ALPHA,dB WITH HOOK,dOPEN O,dC WITH CURL,
dD WITH TAIL,fHOOK,dREVERSED E,dSCHWA,eWITH HOOK,dOPEN E,dREVERSED OPEN E,gWITH HOOK,
dCLOSED REVERSED OPEN E,dDOTLESS J WITH STROKE,dG WITH HOOK,dSCRIPT G,bLETTER SMALL CAPITAL G,
bSMALL LETTER GAMMA,dRAMS HORN,dTURNED H,dH WITH HOOK,dHENG WITH HOOK,dI WITH STROKE,dIOTA,
bLETTER SMALL CAPITAL I,bSMALL LETTER L WITH MIDDLE TILDE,fBELT,fRETROFLEX HOOK,dLEZH,dTURNED M,
fWITH LONG LEG,dM WITH HOOK,dN WITH LEFT HOOK,fRETROFLEX HOOK,bLETTER SMALL CAPITAL N,
bSMALL LETTER BARRED O,bLETTER SMALL CAPITAL OE,bSMALL LETTER CLOSED OMEGA,dPHI,dTURNED R,
fWITH LONG LEG,gHOOK,dR WITH LONG LEG,fTAIL,fFISHHOOK,dREVERSED R WITH FISHHOOK,
bLETTER SMALL CAPITAL R,eINVERTED R,bSMALL LETTER S WITH HOOK,dESH,
dDOTLESS J WITH STROKE AND HOOK,dSQUAT REVERSED ESH,dESH WITH CURL,dTURNED T,
dT WITH RETROFLEX HOOK,dU BAR,dUPSILON,dV WITH HOOK,dTURNED V,eW,eY,bLETTER SMALL CAPITAL Y,
bSMALL LETTER Z WITH RETROFLEX HOOK,fCURL,dEZH,eWITH CURL,bLETTER GLOTTAL STOP,
cPHARYNGEAL VOICED FRICATIVE,cINVERTED GLOTTAL STOP,cSTRETCHED C,cBILABIAL CLICK,
cSMALL CAPITAL B,bSMALL LETTER CLOSED OPEN E,bLETTER SMALL CAPITAL G WITH HOOK,eH,
bSMALL LETTER J WITH CROSSED-TAIL,dTURNED K,bLETTER SMALL CAPITAL L,bSMALL LETTER Q WITH HOOK,
bLETTER GLOTTAL STOP WITH STROKE,cREVERSED GLOTTAL STOP WITH STROKE,bSMALL LETTER DZ DIGRAPH,
dDEZH DIGRAPH,dDZ DIGRAPH WITH CURL,dTS DIGRAPH,dTESH DIGRAPH,dTC DIGRAPH WITH CURL,
dFENG DIGRAPH,dLS DIGRAPH,dLZ DIGRAPH,bLETTER BILABIAL PERCUSSIVE,cBIDENTAL PERCUSSIVE,
bSMALL LETTER TURNED H WITH FISHHOOK,hAND TAIL,aMODIFIER LETTER SMALL H,eWITH HOOK,dJ,dR,
dTURNED R,fWITH HOOK,dCAPITAL INVERTED R,dW,dY,cPRIME,cDOUBLE PRIME,cTURNED COMMA,cAPOSTROPHE,
cREVERSED COMMA,cRIGHT HALF RING,cLEFT HALF RING,cGLOTTAL STOP,cREVERSED GLOTTAL STOP,
cLEFT ARROWHEAD,cRIGHT ARROWHEAD,cUP ARROWHEAD,cDOWN ARROWHEAD,cCIRCUMFLEX ACCENT,aCARON,
aMODIFIER LETTER VERTICAL LINE,cMACRON,cACUTE ACCENT,cGRAVE ACCENT,cLOW VERTICAL LINE,dMACRON,
dGRAVE ACCENT,dACUTE ACCENT,cTRIANGULAR COLON,cHALF TRIANGULAR COLON,cCENTRED RIGHT HALF RING,
dLEFT HALF RING,cUP TACK,cDOWN TACK,cPLUS SIGN,cMINUS SIGN,aBREVE,aDOT ABOVE,aRING ABOVE,aOGONEK,
aSMALL TILDE,aDOUBLE ACUTE ACCENT,aMODIFIER LETTER RHOTIC HOOK,cCROSS ACCENT,cSMALL GAMMA,dL,dS,
dX,dREVERSED GLOTTAL STOP,cEXTRA-HIGH TONE BAR,cHIGH TONE BAR,cMID TONE BAR,cLOW TONE BAR,
cEXTRA-LOW TONE BAR,cYIN DEPARTING TONE MARK,cYANG DEPARTING TONE MARK,cVOICING,cUNASPIRATED,
cDOUBLE APOSTROPHE,cLOW DOWN ARROWHEAD,dUP ARROWHEAD,dLEFT ARROWHEAD,dRIGHT ARROWHEAD,dRING,
cMIDDLE GRAVE ACCENT,dDOUBLE GRAVE ACCENT,eACUTE ACCENT,cLOW TILDE,cRAISED COLON,
cBEGIN HIGH TONE,cEND HIGH TONE,cBEGIN LOW TONE,cEND LOW TONE,cSHELF,cOPEN SHELF,cLOW LEFT ARROW,
aCOMBINING GRAVE ACCENT,bACUTE ACCENT,bCIRCUMFLEX ACCENT,bTILDE,bMACRON,bOVERLINE,bBREVE,
bDOT ABOVE,bDIAERESIS,bHOOK ABOVE,bRING ABOVE,bDOUBLE ACUTE ACCENT,bCARON,bVERTICAL LINE ABOVE,
bDOUBLE VERTICAL LINE ABOVE,cGRAVE ACCENT,bCANDRABINDU,bINVERTED BREVE,bTURNED COMMA ABOVE,
bCOMMA ABOVE,bREVERSED COMMA ABOVE,bCOMMA ABOVE RIGHT,bGRAVE ACCENT BELOW,bACUTE ACCENT BELOW,
bLEFT TACK BELOW,bRIGHT TACK BELOW,bLEFT ANGLE ABOVE,bHORN,bLEFT HALF RING BELOW,bUP TACK BELOW,
bDOWN TACK BELOW,bPLUS SIGN BELOW,bMINUS SIGN BELOW,bPALATALIZED HOOK BELOW,
bRETROFLEX HOOK BELOW,bDOT BELOW,bDIAERESIS BELOW,bRING BELOW,bCOMMA BELOW,bCEDILLA,bOGONEK,
bVERTICAL LINE BELOW,bBRIDGE BELOW,bINVERTED DOUBLE ARCH BELOW,bCARON BELOW,
bCIRCUMFLEX ACCENT BELOW,bBREVE BELOW,bINVERTED BREVE BELOW,bTILDE BELOW,bMACRON BELOW,bLOW LINE,
bDOUBLE LOW LINE,bTILDE OVERLAY,bSHORT STROKE OVERLAY,bLONG STROKE OVERLAY,
bSHORT SOLIDUS OVERLAY,bLONG SOLIDUS OVERLAY,bRIGHT HALF RING BELOW,bINVERTED BRIDGE BELOW,
bSQUARE BELOW,bSEAGULL BELOW,bX ABOVE,bVERTICAL TILDE,bDOUBLE OVERLINE,bGRAVE TONE MARK,
bACUTE TONE MARK,bGREEK PERISPOMENI,cKORONIS,cDIALYTIKA TONOS,cYPOGEGRAMMENI,bBRIDGE ABOVE,
bEQUALS SIGN BELOW,bDOUBLE VERTICAL LINE BELOW,bLEFT ANGLE BELOW,bNOT TILDE ABOVE,
bHOMOTHETIC ABOVE,bALMOST EQUAL TO ABOVE,bLEFT RIGHT ARROW BELOW,bUPWARDS ARROW BELOW,
bGRAPHEME JOINER,bRIGHT ARROWHEAD ABOVE,bLEFT HALF RING ABOVE,bFERMATA,bX BELOW,
bLEFT ARROWHEAD BELOW,bRIGHT ARROWHEAD BELOW,dAND UP ARROWHEAD BELOW,cHALF RING ABOVE,
bDOT ABOVE RIGHT,bASTERISK BELOW,bDOUBLE RING BELOW,bZIGZAG ABOVE,bDOUBLE BREVE BELOW,cBREVE,
cMACRON,dBELOW,cTILDE,cINVERTED BREVE,cRIGHTWARDS ARROW BELOW,bLATIN SMALL LETTER A,eE,eI,eO,eU,
eC,eD,eH,eM,eR,eT,eV,eX,aGREEK CAPITAL LETTER HETA,bSMALL LETTER HETA,
bCAPITAL LETTER ARCHAIC SAMPI,bSMALL LETTER ARCHAIC SAMPI,bNUMERAL SIGN,bLOWER NUMERAL SIGN,
bCAPITAL LETTER PAMPHYLIAN DIGAMMA,bSMALL LETTER PAMPHYLIAN DIGAMMA,@37A,bYPOGEGRAMMENI,
bSMALL REVERSED LUNATE SIGMA SYMBOL,cDOTTED LUNATE SIGMA SYMBOL,
cREVERSED DOTTED LUNATE SIGMA SYMBOL,bQUESTION MARK,bCAPITAL LETTER YOT,@384,bTONOS,
bDIALYTIKA TONOS,bCAPITAL LETTER ALPHA WITH TONOS,bANO TELEIA,bCAPITAL LETTER EPSILON WITH TONOS,
dETA WITH TONOS,dIOTA WITH TONOS,@38C,dOMICRON WITH TONOS,@38E,dUPSILON WITH TONOS,
dOMEGA WITH TONOS,bSMALL LETTER IOTA WITH DIALYTIKA AND TONOS,bCAPITAL LETTER ALPHA,dBETA,dGAMMA,
dDELTA,dEPSILON,dZETA,dETA,dTHETA,dIOTA,dKAPPA,dLAMDA,dMU,dNU,dXI,dOMICRON,dPI,dRHO,@3A3,dSIGMA,
dTAU,dUPSILON,dPHI,dCHI,dPSI,dOMEGA,dIOTA WITH DIALYTIKA,dUPSILON WITH DIALYTIKA,
bSMALL LETTER ALPHA WITH TONOS,dEPSILON WITH TONOS,dETA WITH TONOS,dIOTA WITH TONOS,
dUPSILON WITH DIALYTIKA AND TONOS,dALPHA,dBETA,dGAMMA,dDELTA,dEPSILON,dZETA,dETA,dTHETA,dIOTA,
dKAPPA,dLAMDA,dMU,dNU,dXI,dOMICRON,dPI,dRHO,dFINAL SIGMA,dSIGMA,dTAU,dUPSILON,dPHI,dCHI,dPSI,
dOMEGA,dIOTA WITH DIALYTIKA,dUPSILON WITH DIALYTIKA,dOMICRON WITH TONOS,dUPSILON WITH TONOS,
dOMEGA WITH TONOS,bCAPITAL KAI SYMBOL,bBETA SYMBOL,bTHETA SYMBOL,bUPSILON WITH HOOK SYMBOL,
dACUTE AND HOOK SYMBOL,dDIAERESIS AND HOOK SYMBOL,bPHI SYMBOL,bPI SYMBOL,bKAI SYMBOL,
bLETTER ARCHAIC KOPPA,bSMALL LETTER ARCHAIC KOPPA,bLETTER STIGMA,bSMALL LETTER STIGMA,
bLETTER DIGAMMA,bSMALL LETTER DIGAMMA,bLETTER KOPPA,bSMALL LETTER KOPPA,bLETTER SAMPI,
bSMALL LETTER SAMPI,aCOPTIC CAPITAL LETTER SHEI,bSMALL LETTER SHEI,bCAPITAL LETTER FEI,
bSMALL LETTER FEI,bCAPITAL LETTER KHEI,bSMALL LETTER KHEI,bCAPITAL LETTER HORI,
bSMALL LETTER HORI,bCAPITAL LETTER GANGIA,bSMALL LETTER GANGIA,bCAPITAL LETTER SHIMA,
bSMALL LETTER SHIMA,bCAPITAL LETTER DEI,bSMALL LETTER DEI,aGREEK KAPPA SYMBOL,bRHO SYMBOL,
bLUNATE SIGMA SYMBOL,bLETTER YOT,bCAPITAL THETA SYMBOL,bLUNATE EPSILON SYMBOL,
bREVERSED LUNATE EPSILON SYMBOL,bCAPITAL LETTER SHO,bSMALL LETTER SHO,
bCAPITAL LUNATE SIGMA SYMBOL,cLETTER SAN,bSMALL LETTER SAN,bRHO WITH STROKE SYMBOL,
bCAPITAL REVERSED LUNATE SIGMA SYMBOL,cDOTTED LUNATE SIGMA SYMBOL,
cREVERSED DOTTED LUNATE SIGMA SYMBOL,aCYRILLIC CAPITAL LETTER IE WITH GRAVE,dIO,dDJE,dGJE,
dUKRAINIAN IE,dDZE,dBYELORUSSIAN-UKRAINIAN I,dYI,dJE,dLJE,dNJE,dTSHE,dKJE,dI WITH GRAVE,dSHORT U,
dDZHE,dA,dBE,dVE,dGHE,dDE,dIE,dZHE,dZE,dI,dSHORT I,dKA,dEL,dEM,dEN,dO,dPE,dER,dES,dTE,dU,dEF,dHA,
dTSE,dCHE,dSHA,dSHCHA,dHARD SIGN,dYERU,dSOFT SIGN,dE,dYU,dYA,bSMALL LETTER A,dBE,dVE,dGHE,dDE,
dIE,dZHE,dZE,dI,dSHORT I,dKA,dEL,dEM,dEN,dO,dPE,dER,dES,dTE,dU,dEF,dHA,dTSE,dCHE,dSHA,dSHCHA,
dHARD SIGN,dYERU,dSOFT SIGN,dE,dYU,dYA,dIE WITH GRAVE,dIO,dDJE,dGJE,dUKRAINIAN IE,dDZE,
dBYELORUSSIAN-UKRAINIAN I,dYI,dJE,dLJE,dNJE,dTSHE,dKJE,dI WITH GRAVE,dSHORT U,dDZHE,
bCAPITAL LETTER OMEGA,bSMALL LETTER OMEGA,bCAPITAL LETTER YAT,bSMALL LETTER YAT,
bCAPITAL LETTER IOTIFIED E,bSMALL LETTER IOTIFIED E,bCAPITAL LETTER LITTLE YUS,
bSMALL LETTER LITTLE YUS,bCAPITAL LETTER IOTIFIED LITTLE YUS,bSMALL LETTER IOTIFIED LITTLE YUS,
bCAPITAL LETTER BIG YUS,bSMALL LETTER BIG YUS,bCAPITAL LETTER IOTIFIED BIG YUS,
bSMALL LETTER IOTIFIED BIG YUS,bCAPITAL LETTER KSI,bSMALL LETTER KSI,bCAPITAL LETTER PSI,
bSMALL LETTER PSI,bCAPITAL LETTER FITA,bSMALL LETTER FITA,bCAPITAL LETTER IZHITSA,
bSMALL LETTER IZHITSA,bCAPITAL LETTER IZHITSA WITH DOUBLE GRAVE ACCENT,
bSMALL LETTER IZHITSA WITH DOUBLE GRAVE ACCENT,bCAPITAL LETTER UK,bSMALL LETTER UK,
bCAPITAL LETTER ROUND OMEGA,bSMALL LETTER ROUND OMEGA,bCAPITAL LETTER OMEGA WITH TITLO,
bSMALL LETTER OMEGA WITH TITLO,bCAPITAL LETTER OT,bSMALL LETTER OT,bCAPITAL LETTER KOPPA,
bSMALL LETTER KOPPA,bTHOUSANDS SIGN,aCOMBINING CYRILLIC TITLO,cPALATALIZATION,cDASIA PNEUMATA,
cPSILI PNEUMATA,cPOKRYTIE,cHUNDRED THOUSANDS SIGN,cMILLIONS SIGN,
aCYRILLIC CAPITAL LETTER SHORT I WITH TAIL,bSMALL LETTER SHORT I WITH TAIL,
bCAPITAL LETTER SEMISOFT SIGN,bSMALL LETTER SEMISOFT SIGN,bCAPITAL LETTER ER WITH TICK,
bSMALL LETTER ER WITH TICK,bCAPITAL LETTER GHE WITH UPTURN,bSMALL LETTER GHE WITH UPTURN,
bCAPITAL LETTER GHE WITH STROKE,bSMALL LETTER GHE WITH STROKE,
bCAPITAL LETTER GHE WITH MIDDLE HOOK,bSMALL LETTER GHE WITH MIDDLE HOOK,
bCAPITAL LETTER ZHE WITH DESCENDER,bSMALL LETTER ZHE WITH DESCENDER,
bCAPITAL LETTER ZE WITH DESCENDER,bSMALL LETTER ZE WITH DESCENDER,
bCAPITAL LETTER KA WITH DESCENDER,bSMALL LETTER KA WITH DESCENDER,
bCAPITAL LETTER KA WITH VERTICAL STROKE,bSMALL LETTER KA WITH VERTICAL STROKE,
bCAPITAL LETTER KA WITH STROKE,bSMALL LETTER KA WITH STROKE,bCAPITAL LETTER BASHKIR KA,
bSMALL LETTER BASHKIR KA,bCAPITAL LETTER EN WITH DESCENDER,bSMALL LETTER EN WITH DESCENDER,
bCAPITAL LIGATURE EN GHE,bSMALL LIGATURE EN GHE,bCAPITAL LETTER PE WITH MIDDLE HOOK,
bSMALL LETTER PE WITH MIDDLE HOOK,bCAPITAL LETTER ABKHASIAN HA,bSMALL LETTER ABKHASIAN HA,
bCAPITAL LETTER ES WITH DESCENDER,bSMALL LETTER ES WITH DESCENDER,
bCAPITAL LETTER TE WITH DESCENDER,bSMALL LETTER TE WITH DESCENDER,bCAPITAL LETTER STRAIGHT U,
bSMALL LETTER STRAIGHT U,bCAPITAL LETTER STRAIGHT U WITH STROKE,
bSMALL LETTER STRAIGHT U WITH STROKE,bCAPITAL LETTER HA WITH DESCENDER,
bSMALL LETTER HA WITH DESCENDER,bCAPITAL LIGATURE TE TSE,bSMALL LIGATURE TE TSE,
bCAPITAL LETTER CHE WITH DESCENDER,bSMALL LETTER CHE WITH DESCENDER,
bCAPITAL LETTER CHE WITH VERTICAL STROKE,bSMALL LETTER CHE WITH VERTICAL STROKE,
bCAPITAL LETTER SHHA,bSMALL LETTER SHHA,bCAPITAL LETTER ABKHASIAN CHE,
bSMALL LETTER ABKHASIAN CHE,bCAPITAL LETTER ABKHASIAN CHE WITH DESCENDER,
bSMALL LETTER ABKHASIAN CHE WITH DESCENDER,bLETTER PALOCHKA,bCAPITAL LETTER ZHE WITH BREVE,
bSMALL LETTER ZHE WITH BREVE,bCAPITAL LETTER KA WITH HOOK,bSMALL LETTER KA WITH HOOK,
bCAPITAL LETTER EL WITH TAIL,bSMALL LETTER EL WITH TAIL,bCAPITAL LETTER EN WITH HOOK,
bSMALL LETTER EN WITH HOOK,bCAPITAL LETTER EN WITH TAIL,bSMALL LETTER EN WITH TAIL,
bCAPITAL LETTER KHAKASSIAN CHE,bSMALL LETTER KHAKASSIAN CHE,bCAPITAL LETTER EM WITH TAIL,
bSMALL LETTER EM WITH TAIL,dPALOCHKA,bCAPITAL LETTER A WITH BREVE,bSMALL LETTER A WITH BREVE,
bCAPITAL LETTER A WITH DIAERESIS,bSMALL LETTER A WITH DIAERESIS,bCAPITAL LIGATURE A IE,
bSMALL LIGATURE A IE,bCAPITAL LETTER IE WITH BREVE,bSMALL LETTER IE WITH BREVE,
bCAPITAL LETTER SCHWA,bSMALL LETTER SCHWA,bCAPITAL LETTER SCHWA WITH DIAERESIS,
bSMALL LETTER SCHWA WITH DIAERESIS,bCAPITAL LETTER ZHE WITH DIAERESIS,
bSMALL LETTER ZHE WITH DIAERESIS,bCAPITAL LETTER ZE WITH DIAERESIS,
bSMALL LETTER ZE WITH DIAERESIS,bCAPITAL LETTER ABKHASIAN DZE,bSMALL LETTER ABKHASIAN DZE,
bCAPITAL LETTER I WITH MACRON,bSMALL LETTER I WITH MACRON,bCAPITAL LETTER I WITH DIAERESIS,
bSMALL LETTER I WITH DIAERESIS,bCAPITAL LETTER O WITH DIAERESIS,bSMALL LETTER O WITH DIAERESIS,
bCAPITAL LETTER BARRED O,bSMALL LETTER BARRED O,bCAPITAL LETTER BARRED O WITH DIAERESIS,
bSMALL LETTER BARRED O WITH DIAERESIS,bCAPITAL LETTER E WITH DIAERESIS,
bSMALL LETTER E WITH DIAERESIS,bCAPITAL LETTER U WITH MACRON,bSMALL LETTER U WITH MACRON,
bCAPITAL LETTER U WITH DIAERESIS,bSMALL LETTER U WITH DIAERESIS,
bCAPITAL LETTER U WITH DOUBLE ACUTE,bSMALL LETTER U WITH DOUBLE ACUTE,
bCAPITAL LETTER CHE WITH DIAERESIS,bSMALL LETTER CHE WITH DIAERESIS,
bCAPITAL LETTER GHE WITH DESCENDER,bSMALL LETTER GHE WITH DESCENDER,
bCAPITAL LETTER YERU WITH DIAERESIS,bSMALL LETTER YERU WITH DIAERESIS,
bCAPITAL LETTER GHE WITH STROKE AND HOOK,bSMALL LETTER GHE WITH STROKE AND HOOK,
bCAPITAL LETTER HA WITH HOOK,bSMALL LETTER HA WITH HOOK,bCAPITAL LETTER HA WITH STROKE,
bSMALL LETTER HA WITH STROKE,bCAPITAL LETTER KOMI DE,bSMALL LETTER KOMI DE,
bCAPITAL LETTER KOMI DJE,bSMALL LETTER KOMI DJE,bCAPITAL LETTER KOMI ZJE,bSMALL LETTER KOMI ZJE,
bCAPITAL LETTER KOMI DZJE,bSMALL LETTER KOMI DZJE,bCAPITAL LETTER KOMI LJE,
bSMALL LETTER KOMI LJE,bCAPITAL LETTER KOMI NJE,bSMALL LETTER KOMI NJE,bCAPITAL LETTER KOMI SJE,
bSMALL LETTER KOMI SJE,bCAPITAL LETTER KOMI TJE,bSMALL LETTER KOMI TJE,
bCAPITAL LETTER REVERSED ZE,bSMALL LETTER REVERSED ZE,bCAPITAL LETTER EL WITH HOOK,
bSMALL LETTER EL WITH HOOK,bCAPITAL LETTER LHA,bSMALL LETTER LHA,bCAPITAL LETTER RHA,
bSMALL LETTER RHA,bCAPITAL LETTER YAE,bSMALL LETTER YAE,bCAPITAL LETTER QA,bSMALL LETTER QA,
bCAPITAL LETTER WE,bSMALL LETTER WE,bCAPITAL LETTER ALEUT KA,bSMALL LETTER ALEUT KA,
bCAPITAL LETTER EL WITH MIDDLE HOOK,bSMALL LETTER EL WITH MIDDLE HOOK,
bCAPITAL LETTER EN WITH MIDDLE HOOK,bSMALL LETTER EN WITH MIDDLE HOOK,
bCAPITAL LETTER PE WITH DESCENDER,bSMALL LETTER PE WITH DESCENDER,
bCAPITAL LETTER SHHA WITH DESCENDER,bSMALL LETTER SHHA WITH DESCENDER,
bCAPITAL LETTER EN WITH LEFT HOOK,bSMALL LETTER EN WITH LEFT HOOK,bCAPITAL LETTER DZZHE,
bSMALL LETTER DZZHE,bCAPITAL LETTER DCHE,bSMALL LETTER DCHE,bCAPITAL LETTER EL WITH DESCENDER,
bSMALL LETTER EL WITH DESCENDER"

/-- The names of punctuation, currency, letterlike symbols and numbers. -/
def punctuationNames : String := "@2000,aEN QUAD,aEM QUAD,aEN SPACE,aEM SPACE,aTHREE-PER-EM SPACE,aFOUR-PER-EM SPACE,
aSIX-PER-EM SPACE,aFIGURE SPACE,aPUNCTUATION SPACE,aTHIN SPACE,aHAIR SPACE,aZERO WIDTH SPACE,
cNON-JOINER,cJOINER,aLEFT-TO-RIGHT MARK,aRIGHT-TO-LEFT MARK,aHYPHEN,aNON-BREAKING HYPHEN,
aFIGURE DASH,aEN DASH,aEM DASH,aHORIZONTAL BAR,aDOUBLE VERTICAL LINE,bLOW LINE,
aLEFT SINGLE QUOTATION MARK,aRIGHT SINGLE QUOTATION MARK,aSINGLE LOW-9 QUOTATION MARK,
bHIGH-REVERSED-9 QUOTATION MARK,aLEFT DOUBLE QUOTATION MARK,aRIGHT DOUBLE QUOTATION MARK,
aDOUBLE LOW-9 QUOTATION MARK,bHIGH-REVERSED-9 QUOTATION MARK,aDAGGER,aDOUBLE DAGGER,aBULLET,
aTRIANGULAR BULLET,aONE DOT LEADER,aTWO DOT LEADER,aHORIZONTAL ELLIPSIS,aHYPHENATION POINT,
aLINE SEPARATOR,aPARAGRAPH SEPARATOR,aLEFT-TO-RIGHT EMBEDDING,aRIGHT-TO-LEFT EMBEDDING,
aPOP DIRECTIONAL FORMATTING,aLEFT-TO-RIGHT OVERRIDE,aRIGHT-TO-LEFT OVERRIDE,
aNARROW NO-BREAK SPACE,aPER MILLE SIGN,bTEN THOUSAND SIGN,aPRIME,aDOUBLE PRIME,aTRIPLE PRIME,
aREVERSED PRIME,bDOUBLE PRIME,bTRIPLE PRIME,aCARET,aSINGLE LEFT-POINTING ANGLE QUOTATION MARK,
bRIGHT-POINTING ANGLE QUOTATION MARK,aREFERENCE MARK,aDOUBLE EXCLAMATION MARK,aINTERROBANG,
aOVERLINE,aUNDERTIE,aCHARACTER TIE,aCARET INSERTION POINT,aASTERISM,aHYPHEN BULLET,
aFRACTION SLASH,aLEFT SQUARE BRACKET WITH QUILL,aRIGHT SQUARE BRACKET WITH QUILL,
aDOUBLE QUESTION MARK,aQUESTION EXCLAMATION MARK,aEXCLAMATION QUESTION MARK,aTIRONIAN SIGN ET,
aREVERSED PILCROW SIGN,aBLACK LEFTWARDS BULLET,bRIGHTWARDS BULLET,aLOW ASTERISK,
aREVERSED SEMICOLON,aCLOSE UP,aTWO ASTERISKS ALIGNED VERTICALLY,aCOMMERCIAL MINUS SIGN,
aSWUNG DASH,aINVERTED UNDERTIE,aFLOWER PUNCTUATION MARK,aTHREE DOT PUNCTUATION,aQUADRUPLE PRIME,
aFOUR DOT PUNCTUATION,aFIVE DOT PUNCTUATION,aTWO DOT PUNCTUATION,aFOUR DOT MARK,aDOTTED CROSS,
aTRICOLON,aVERTICAL FOUR DOTS,aMEDIUM MATHEMATICAL SPACE,aWORD JOINER,aFUNCTION APPLICATION,
aINVISIBLE TIMES,bSEPARATOR,bPLUS,@2066,aLEFT-TO-RIGHT ISOLATE,aRIGHT-TO-LEFT ISOLATE,
aFIRST STRONG ISOLATE,aPOP DIRECTIONAL ISOLATE,aINHIBIT SYMMETRIC SWAPPING,
aACTIVATE SYMMETRIC SWAPPING,aINHIBIT ARABIC FORM SHAPING,aACTIVATE ARABIC FORM SHAPING,
aNATIONAL DIGIT SHAPES,aNOMINAL DIGIT SHAPES,aSUPERSCRIPT ZERO,bLATIN SMALL LETTER I,@2074,bFOUR,
bFIVE,bSIX,bSEVEN,bEIGHT,bNINE,bPLUS SIGN,bMINUS,bEQUALS SIGN,bLEFT PARENTHESIS,
bRIGHT PARENTHESIS,bLATIN SMALL LETTER N,aSUBSCRIPT ZERO,bONE,bTWO,bTHREE,bFOUR,bFIVE,bSIX,
bSEVEN,bEIGHT,bNINE,bPLUS SIGN,bMINUS,bEQUALS SIGN,bLEFT PARENTHESIS,bRIGHT PARENTHESIS,@2090,
aLATIN SUBSCRIPT SMALL LETTER A,eE,eO,eX,eSCHWA,eH,eK,eL,eM,eN,eP,eS,eT,@20A0,
aEURO-CURRENCY SIGN,aCOLON SIGN,aCRUZEIRO SIGN,aFRENCH FRANC SIGN,aLIRA SIGN,aMILL SIGN,
aNAIRA SIGN,aPESETA SIGN,aRUPEE SIGN,aWON SIGN,aNEW SHEQEL SIGN,aDONG SIGN,aEURO SIGN,aKIP SIGN,
aTUGRIK SIGN,aDRACHMA SIGN,aGERMAN PENNY SIGN,aPESO SIGN,aGUARANI SIGN,aAUSTRAL SIGN,
aHRYVNIA SIGN,aCEDI SIGN,aLIVRE TOURNOIS SIGN,aSPESMILO SIGN,aTENGE SIGN,aINDIAN RUPEE SIGN,
aTURKISH LIRA SIGN,aNORDIC MARK SIGN,aMANAT SIGN,aRUBLE SIGN,aLARI SIGN,aBITCOIN SIGN,aSOM SIGN,
@20D0,aCOMBINING LEFT HARPOON ABOVE,bRIGHT HARPOON ABOVE,bLONG VERTICAL LINE OVERLAY,
bSHORT VERTICAL LINE OVERLAY,bANTICLOCKWISE ARROW ABOVE,bCLOCKWISE ARROW ABOVE,bLEFT ARROW ABOVE,
bRIGHT ARROW ABOVE,bRING OVERLAY,bCLOCKWISE RING OVERLAY,bANTICLOCKWISE RING OVERLAY,
bTHREE DOTS ABOVE,bFOUR DOTS ABOVE,bENCLOSING CIRCLE,cSQUARE,cDIAMOND,cCIRCLE BACKSLASH,
bLEFT RIGHT ARROW ABOVE,bENCLOSING SCREEN,cKEYCAP,cUPWARD POINTING TRIANGLE,
bREVERSE SOLIDUS OVERLAY,bDOUBLE VERTICAL STROKE OVERLAY,bANNUITY SYMBOL,bTRIPLE UNDERDOT,
bWIDE BRIDGE ABOVE,bLEFTWARDS ARROW OVERLAY,bLONG DOUBLE SOLIDUS OVERLAY,
bRIGHTWARDS HARPOON WITH BARB DOWNWARDS,bLEFTWARDS HARPOON WITH BARB DOWNWARDS,bLEFT ARROW BELOW,
bRIGHT ARROW BELOW,bASTERISK ABOVE,@2100,aACCOUNT OF,aADDRESSED TO THE SUBJECT,
aDOUBLE-STRUCK CAPITAL C,aDEGREE CELSIUS,aCENTRE LINE SYMBOL,aCARE OF,aCADA UNA,aEULER CONSTANT,
aSCRUPLE,aDEGREE FAHRENHEIT,aSCRIPT SMALL G,bCAPITAL H,aBLACK-LETTER CAPITAL H,
aDOUBLE-STRUCK CAPITAL H,aPLANCK CONSTANT,cOVER TWO PI,aSCRIPT CAPITAL I,aBLACK-LETTER CAPITAL I,
aSCRIPT CAPITAL L,bSMALL L,aL B BAR SYMBOL,aDOUBLE-STRUCK CAPITAL N,aNUMERO SIGN,
aSOUND RECORDING COPYRIGHT,aSCRIPT CAPITAL P,aDOUBLE-STRUCK CAPITAL P,cQ,aSCRIPT CAPITAL R,
aBLACK-LETTER CAPITAL R,aDOUBLE-STRUCK CAPITAL R,aPRESCRIPTION TAKE,aRESPONSE,aSERVICE MARK,
aTELEPHONE SIGN,aTRADE MARK SIGN,aVERSICLE,aDOUBLE-STRUCK CAPITAL Z,aOUNCE SIGN,aOHM SIGN,
aINVERTED OHM SIGN,aBLACK-LETTER CAPITAL Z,aTURNED GREEK SMALL LETTER IOTA,aKELVIN SIGN,
aANGSTROM SIGN,aSCRIPT CAPITAL B,aBLACK-LETTER CAPITAL C,aESTIMATED SYMBOL,aSCRIPT SMALL E,
bCAPITAL E,cF,aTURNED CAPITAL F,aSCRIPT CAPITAL M,bSMALL O,aALEF SYMBOL,aBET SYMBOL,
aGIMEL SYMBOL,aDALET SYMBOL,aINFORMATION SOURCE,aROTATED CAPITAL Q,aFACSIMILE SIGN,
aDOUBLE-STRUCK SMALL PI,cGAMMA,bCAPITAL GAMMA,cPI,bN-ARY SUMMATION,aTURNED SANS-SERIF CAPITAL G,
dL,aREVERSED SANS-SERIF CAPITAL L,aTURNED SANS-SERIF CAPITAL Y,aDOUBLE-STRUCK ITALIC CAPITAL D,
cSMALL D,dE,dI,dJ,aPROPERTY LINE,aTURNED AMPERSAND,aPER SIGN,aAKTIESELSKAB,aTURNED SMALL F,
aSYMBOL FOR SAMARITAN SOURCE,aVULGAR FRACTION ONE SEVENTH,dNINTH,dTENTH,dTHIRD,cTWO THIRDS,
cONE FIFTH,cTWO FIFTHS,cTHREE FIFTHS,cFOUR FIFTHS,cONE SIXTH,cFIVE SIXTHS,cONE EIGHTH,
cTHREE EIGHTHS,cFIVE EIGHTHS,cSEVEN EIGHTHS,aFRACTION NUMERATOR ONE,aROMAN NUMERAL ONE,cTWO,
cTHREE,cFOUR,cFIVE,cSIX,cSEVEN,cEIGHT,cNINE,cTEN,cELEVEN,cTWELVE,cFIFTY,cONE HUNDRED,
cFIVE HUNDRED,cONE THOUSAND,aSMALL ROMAN NUMERAL ONE,dTWO,dTHREE,dFOUR,dFIVE,dSIX,dSEVEN,dEIGHT,
dNINE,dTEN,dELEVEN,dTWELVE,dFIFTY,dONE HUNDRED,dFIVE HUNDRED,dONE THOUSAND,
aROMAN NUMERAL ONE THOUSAND C D,cFIVE THOUSAND,cTEN THOUSAND,cREVERSED ONE HUNDRED,
aLATIN SMALL LETTER REVERSED C,aROMAN NUMERAL SIX LATE FORM,cFIFTY EARLY FORM,dTHOUSAND,
cONE HUNDRED THOUSAND,aVULGAR FRACTION ZERO THIRDS,aTURNED DIGIT TWO,cTHREE"

/-- The names of arrows, operators, technical and geometric symbols, dingbats. -/
def symbolNames : String := "@2190,aLEFTWARDS ARROW,aUPWARDS ARROW,aRIGHTWARDS ARROW,aDOWNWARDS ARROW,aLEFT RIGHT ARROW,
aUP DOWN ARROW,aNORTH WEST ARROW,bEAST ARROW,aSOUTH EAST ARROW,bWEST ARROW,
aLEFTWARDS ARROW WITH STROKE,aRIGHTWARDS ARROW WITH STROKE,aLEFTWARDS WAVE ARROW,
aRIGHTWARDS WAVE ARROW,aLEFTWARDS TWO HEADED ARROW,aUPWARDS TWO HEADED ARROW,
aRIGHTWARDS TWO HEADED ARROW,aDOWNWARDS TWO HEADED ARROW,aLEFTWARDS ARROW WITH TAIL,
aRIGHTWARDS ARROW WITH TAIL,aLEFTWARDS ARROW FROM BAR,aUPWARDS ARROW FROM BAR,
aRIGHTWARDS ARROW FROM BAR,aDOWNWARDS ARROW FROM BAR,aUP DOWN ARROW WITH BASE,
aLEFTWARDS ARROW WITH HOOK,aRIGHTWARDS ARROW WITH HOOK,aLEFTWARDS ARROW WITH LOOP,
aRIGHTWARDS ARROW WITH LOOP,aLEFT RIGHT WAVE ARROW,cARROW WITH STROKE,aDOWNWARDS ZIGZAG ARROW,
aUPWARDS ARROW WITH TIP LEFTWARDS,eRIGHTWARDS,aDOWNWARDS ARROW WITH TIP LEFTWARDS,eRIGHTWARDS,
aRIGHTWARDS ARROW WITH CORNER DOWNWARDS,aDOWNWARDS ARROW WITH CORNER LEFTWARDS,
aANTICLOCKWISE TOP SEMICIRCLE ARROW,aCLOCKWISE TOP SEMICIRCLE ARROW,
aNORTH WEST ARROW TO LONG BAR,aLEFTWARDS ARROW TO BAR OVER RIGHTWARDS ARROW TO BAR,
aANTICLOCKWISE OPEN CIRCLE ARROW,aCLOCKWISE OPEN CIRCLE ARROW,
aLEFTWARDS HARPOON WITH BARB UPWARDS,eDOWNWARDS,aUPWARDS HARPOON WITH BARB RIGHTWARDS,eLEFTWARDS,
aRIGHTWARDS HARPOON WITH BARB UPWARDS,eDOWNWARDS,aDOWNWARDS HARPOON WITH BARB RIGHTWARDS,
eLEFTWARDS,aRIGHTWARDS ARROW OVER LEFTWARDS ARROW,aUPWARDS ARROW LEFTWARDS OF DOWNWARDS ARROW,
aLEFTWARDS ARROW OVER RIGHTWARDS ARROW,bPAIRED ARROWS,aUPWARDS PAIRED ARROWS,
aRIGHTWARDS PAIRED ARROWS,aDOWNWARDS PAIRED ARROWS,aLEFTWARDS HARPOON OVER RIGHTWARDS HARPOON,
aRIGHTWARDS HARPOON OVER LEFTWARDS HARPOON,aLEFTWARDS DOUBLE ARROW WITH STROKE,
aLEFT RIGHT DOUBLE ARROW WITH STROKE,aRIGHTWARDS DOUBLE ARROW WITH STROKE,
aLEFTWARDS DOUBLE ARROW,aUPWARDS DOUBLE ARROW,aRIGHTWARDS DOUBLE ARROW,aDOWNWARDS DOUBLE ARROW,
aLEFT RIGHT DOUBLE ARROW,aUP DOWN DOUBLE ARROW,aNORTH WEST DOUBLE ARROW,bEAST DOUBLE ARROW,
aSOUTH EAST DOUBLE ARROW,bWEST DOUBLE ARROW,aLEFTWARDS TRIPLE ARROW,aRIGHTWARDS TRIPLE ARROW,
aLEFTWARDS SQUIGGLE ARROW,aRIGHTWARDS SQUIGGLE ARROW,aUPWARDS ARROW WITH DOUBLE STROKE,
aDOWNWARDS ARROW WITH DOUBLE STROKE,aLEFTWARDS DASHED ARROW,aUPWARDS DASHED ARROW,
aRIGHTWARDS DASHED ARROW,aDOWNWARDS DASHED ARROW,aLEFTWARDS ARROW TO BAR,
aRIGHTWARDS ARROW TO BAR,aLEFTWARDS WHITE ARROW,aUPWARDS WHITE ARROW,aRIGHTWARDS WHITE ARROW,
aDOWNWARDS WHITE ARROW,aUPWARDS WHITE ARROW FROM BAR,dON PEDESTAL,fWITH HORIZONTAL BAR,
gVERTICAL BAR,cDOUBLE ARROW,eON PEDESTAL,aRIGHTWARDS WHITE ARROW FROM WALL,
aNORTH WEST ARROW TO CORNER,aSOUTH EAST ARROW TO CORNER,aUP DOWN WHITE ARROW,
aRIGHT ARROW WITH SMALL CIRCLE,aDOWNWARDS ARROW LEFTWARDS OF UPWARDS ARROW,
aTHREE RIGHTWARDS ARROWS,aLEFTWARDS ARROW WITH VERTICAL STROKE,
aRIGHTWARDS ARROW WITH VERTICAL STROKE,aLEFT RIGHT ARROW WITH VERTICAL STROKE,
aLEFTWARDS ARROW WITH DOUBLE VERTICAL STROKE,aRIGHTWARDS ARROW WITH DOUBLE VERTICAL STROKE,
aLEFT RIGHT ARROW WITH DOUBLE VERTICAL STROKE,aLEFTWARDS OPEN-HEADED ARROW,
aRIGHTWARDS OPEN-HEADED ARROW,aLEFT RIGHT OPEN-HEADED ARROW,aFOR ALL,aCOMPLEMENT,
aPARTIAL DIFFERENTIAL,aTHERE EXISTS,bDOES NOT EXIST,aEMPTY SET,aINCREMENT,aNABLA,aELEMENT OF,
aNOT AN ELEMENT OF,aSMALL ELEMENT OF,aCONTAINS AS MEMBER,aDOES NOT CONTAIN AS MEMBER,
aSMALL CONTAINS AS MEMBER,aEND OF PROOF,aN-ARY PRODUCT,bCOPRODUCT,bSUMMATION,aMINUS SIGN,
aMINUS-OR-PLUS SIGN,aDOT PLUS,aDIVISION SLASH,aSET MINUS,aASTERISK OPERATOR,aRING OPERATOR,
aBULLET OPERATOR,aSQUARE ROOT,aCUBE ROOT,aFOURTH ROOT,aPROPORTIONAL TO,aINFINITY,aRIGHT ANGLE,
aANGLE,aMEASURED ANGLE,aSPHERICAL ANGLE,aDIVIDES,aDOES NOT DIVIDE,aPARALLEL TO,aNOT PARALLEL TO,
aLOGICAL AND,bOR,aINTERSECTION,aUNION,aINTEGRAL,aDOUBLE INTEGRAL,aTRIPLE INTEGRAL,
aCONTOUR INTEGRAL,aSURFACE INTEGRAL,aVOLUME INTEGRAL,aCLOCKWISE INTEGRAL,bCONTOUR INTEGRAL,
aANTICLOCKWISE CONTOUR INTEGRAL,aTHEREFORE,aBECAUSE,aRATIO,aPROPORTION,aDOT MINUS,aEXCESS,
aGEOMETRIC PROPORTION,aHOMOTHETIC,aTILDE OPERATOR,aREVERSED TILDE,aINVERTED LAZY S,aSINE WAVE,
aWREATH PRODUCT,aNOT TILDE,aMINUS TILDE,aASYMPTOTICALLY EQUAL TO,aNOT ASYMPTOTICALLY EQUAL TO,
aAPPROXIMATELY EQUAL TO,bBUT NOT ACTUALLY EQUAL TO,aNEITHER APPROXIMATELY NOR ACTUALLY EQUAL TO,
aALMOST EQUAL TO,aNOT ALMOST EQUAL TO,aALMOST EQUAL OR EQUAL TO,aTRIPLE TILDE,aALL EQUAL TO,
aEQUIVALENT TO,aGEOMETRICALLY EQUIVALENT TO,aDIFFERENCE BETWEEN,aAPPROACHES THE LIMIT,
aGEOMETRICALLY EQUAL TO,aAPPROXIMATELY EQUAL TO OR THE IMAGE OF,
aIMAGE OF OR APPROXIMATELY EQUAL TO,aCOLON EQUALS,aEQUALS COLON,aRING IN EQUAL TO,bEQUAL TO,
aCORRESPONDS TO,aESTIMATES,aEQUIANGULAR TO,aSTAR EQUALS,aDELTA EQUAL TO,aEQUAL TO BY DEFINITION,
aMEASURED BY,aQUESTIONED EQUAL TO,aNOT EQUAL TO,aIDENTICAL TO,aNOT IDENTICAL TO,
aSTRICTLY EQUIVALENT TO,aLESS-THAN OR EQUAL TO,aGREATER-THAN OR EQUAL TO,
aLESS-THAN OVER EQUAL TO,aGREATER-THAN OVER EQUAL TO,aLESS-THAN BUT NOT EQUAL TO,
aGREATER-THAN BUT NOT EQUAL TO,aMUCH LESS-THAN,bGREATER-THAN,aBETWEEN,aNOT EQUIVALENT TO,
bLESS-THAN,bGREATER-THAN,aNEITHER LESS-THAN NOR EQUAL TO,bGREATER-THAN NOR EQUAL TO,
aLESS-THAN OR EQUIVALENT TO,aGREATER-THAN OR EQUIVALENT TO,aNEITHER LESS-THAN NOR EQUIVALENT TO,
bGREATER-THAN NOR EQUIVALENT TO,aLESS-THAN OR GREATER-THAN,aGREATER-THAN OR LESS-THAN,
aNEITHER LESS-THAN NOR GREATER-THAN,bGREATER-THAN NOR LESS-THAN,aPRECEDES,aSUCCEEDS,
aPRECEDES OR EQUAL TO,aSUCCEEDS OR EQUAL TO,aPRECEDES OR EQUIVALENT TO,
aSUCCEEDS OR EQUIVALENT TO,aDOES NOT PRECEDE,cSUCCEED,aSUBSET OF,aSUPERSET OF,aNOT A SUBSET OF,
cSUPERSET OF,aSUBSET OF OR EQUAL TO,aSUPERSET OF OR EQUAL TO,aNEITHER A SUBSET OF NOR EQUAL TO,
cSUPERSET OF NOR EQUAL TO,aSUBSET OF WITH NOT EQUAL TO,aSUPERSET OF WITH NOT EQUAL TO,aMULTISET,
bMULTIPLICATION,bUNION,aSQUARE IMAGE OF,bORIGINAL OF,bIMAGE OF OR EQUAL TO,
bORIGINAL OF OR EQUAL TO,bCAP,bCUP,aCIRCLED PLUS,bMINUS,bTIMES,bDIVISION SLASH,bDOT OPERATOR,
bRING OPERATOR,bASTERISK OPERATOR,bEQUALS,bDASH,aSQUARED PLUS,bMINUS,bTIMES,bDOT OPERATOR,
aRIGHT TACK,aLEFT TACK,aDOWN TACK,aUP TACK,aASSERTION,aMODELS,aTRUE,aFORCES,
aTRIPLE VERTICAL BAR RIGHT TURNSTILE,aDOUBLE VERTICAL BAR DOUBLE RIGHT TURNSTILE,aDOES NOT PROVE,
aNOT TRUE,aDOES NOT FORCE,aNEGATED DOUBLE VERTICAL BAR DOUBLE RIGHT TURNSTILE,
aPRECEDES UNDER RELATION,aSUCCEEDS UNDER RELATION,aNORMAL SUBGROUP OF,
aCONTAINS AS NORMAL SUBGROUP,aNORMAL SUBGROUP OF OR EQUAL TO,
aCONTAINS AS NORMAL SUBGROUP OR EQUAL TO,aORIGINAL OF,aIMAGE OF,aMULTIMAP,
aHERMITIAN CONJUGATE MATRIX,aINTERCALATE,aXOR,aNAND,aNOR,aRIGHT ANGLE WITH ARC,bTRIANGLE,
aN-ARY LOGICAL AND,cOR,bINTERSECTION,bUNION,aDIAMOND OPERATOR,aDOT OPERATOR,aSTAR OPERATOR,
aDIVISION TIMES,aBOWTIE,aLEFT NORMAL FACTOR SEMIDIRECT PRODUCT,
aRIGHT NORMAL FACTOR SEMIDIRECT PRODUCT,aLEFT SEMIDIRECT PRODUCT,aRIGHT SEMIDIRECT PRODUCT,
aREVERSED TILDE EQUALS,aCURLY LOGICAL OR,cAND,aDOUBLE SUBSET,bSUPERSET,bINTERSECTION,bUNION,
aPITCHFORK,aEQUAL AND PARALLEL TO,aLESS-THAN WITH DOT,aGREATER-THAN WITH DOT,
aVERY MUCH LESS-THAN,cGREATER-THAN,aLESS-THAN EQUAL TO OR GREATER-THAN,
aGREATER-THAN EQUAL TO OR LESS-THAN,aEQUAL TO OR LESS-THAN,dGREATER-THAN,dPRECEDES,dSUCCEEDS,
aDOES NOT PRECEDE OR EQUAL,cSUCCEED OR EQUAL,aNOT SQUARE IMAGE OF OR EQUAL TO,
cORIGINAL OF OR EQUAL TO,aSQUARE IMAGE OF OR NOT EQUAL TO,bORIGINAL OF OR NOT EQUAL TO,
aLESS-THAN BUT NOT EQUIVALENT TO,aGREATER-THAN BUT NOT EQUIVALENT TO,
aPRECEDES BUT NOT EQUIVALENT TO,aSUCCEEDS BUT NOT EQUIVALENT TO,aNOT NORMAL SUBGROUP OF,
aDOES NOT CONTAIN AS NORMAL SUBGROUP,aNOT NORMAL SUBGROUP OF OR EQUAL TO,
aDOES NOT CONTAIN AS NORMAL SUBGROUP OR EQUAL,aVERTICAL ELLIPSIS,aMIDLINE HORIZONTAL ELLIPSIS,
aUP RIGHT DIAGONAL ELLIPSIS,aDOWN RIGHT DIAGONAL ELLIPSIS,
aELEMENT OF WITH LONG HORIZONTAL STROKE,dVERTICAL BAR AT END OF HORIZONTAL STROKE,
aSMALL ELEMENT OF WITH VERTICAL BAR AT END OF HORIZONTAL STROKE,aELEMENT OF WITH DOT ABOVE,
dOVERBAR,aSMALL ELEMENT OF WITH OVERBAR,aELEMENT OF WITH UNDERBAR,dTWO HORIZONTAL STROKES,
aCONTAINS WITH LONG HORIZONTAL STROKE,cVERTICAL BAR AT END OF HORIZONTAL STROKE,
aSMALL CONTAINS WITH VERTICAL BAR AT END OF HORIZONTAL STROKE,aCONTAINS WITH OVERBAR,
aSMALL CONTAINS WITH OVERBAR,aZ NOTATION BAG MEMBERSHIP,aDIAMETER SIGN,aELECTRIC ARROW,aHOUSE,
aUP ARROWHEAD,aDOWN ARROWHEAD,aPROJECTIVE,aPERSPECTIVE,aWAVY LINE,aLEFT CEILING,aRIGHT CEILING,
aLEFT FLOOR,aRIGHT FLOOR,aBOTTOM RIGHT CROP,bLEFT CROP,aTOP RIGHT CROP,bLEFT CROP,
aREVERSED NOT SIGN,aSQUARE LOZENGE,aARC,aSEGMENT,aSECTOR,aTELEPHONE RECORDER,aPOSITION INDICATOR,
aVIEWDATA SQUARE,aPLACE OF INTEREST SIGN,aTURNED NOT SIGN,aWATCH,aHOURGLASS,aTOP LEFT CORNER,
bRIGHT CORNER,aBOTTOM LEFT CORNER,bRIGHT CORNER,aTOP HALF INTEGRAL,aBOTTOM HALF INTEGRAL,aFROWN,
aSMILE,aUP ARROWHEAD BETWEEN TWO HORIZONTAL BARS,aOPTION KEY,aERASE TO THE RIGHT,
aX IN A RECTANGLE BOX,aKEYBOARD,aLEFT-POINTING ANGLE BRACKET,aRIGHT-POINTING ANGLE BRACKET,
aERASE TO THE LEFT,aBENZENE RING,aCYLINDRICITY,aALL AROUND-PROFILE,aSYMMETRY,aTOTAL RUNOUT,
aDIMENSION ORIGIN,aCONICAL TAPER,aSLOPE,aCOUNTERBORE,aCOUNTERSINK,aAPL FUNCTIONAL SYMBOL I-BEAM,
dSQUISH QUAD,dQUAD EQUAL,eDIVIDE,eDIAMOND,eJOT,eCIRCLE,dCIRCLE STILE,eJOT,dSLASH BAR,
dBACKSLASH BAR,dQUAD SLASH,eBACKSLASH,eLESS-THAN,eGREATER-THAN,dLEFTWARDS VANE,dRIGHTWARDS VANE,
dQUAD LEFTWARDS ARROW,eRIGHTWARDS ARROW,dCIRCLE BACKSLASH,dDOWN TACK UNDERBAR,dDELTA STILE,
dQUAD DOWN CARET,eDELTA,dDOWN TACK JOT,dUPWARDS VANE,dQUAD UPWARDS ARROW,dUP TACK OVERBAR,
dDEL STILE,dQUAD UP CARET,eDEL,dUP TACK JOT,dDOWNWARDS VANE,dQUAD DOWNWARDS ARROW,
dQUOTE UNDERBAR,dDELTA UNDERBAR,dDIAMOND UNDERBAR,dJOT UNDERBAR,dCIRCLE UNDERBAR,dUP SHOE JOT,
dQUOTE QUAD,dCIRCLE STAR,dQUAD COLON,dUP TACK DIAERESIS,dDEL DIAERESIS,dSTAR DIAERESIS,
dJOT DIAERESIS,dCIRCLE DIAERESIS,dDOWN SHOE STILE,dLEFT SHOE STILE,dTILDE DIAERESIS,
dGREATER-THAN DIAERESIS,dCOMMA BAR,dDEL TILDE,dZILDE,dSTILE TILDE,dSEMICOLON UNDERBAR,
dQUAD NOT EQUAL,eQUESTION,dDOWN CARET TILDE,dUP CARET TILDE,dIOTA,dRHO,dOMEGA,dALPHA UNDERBAR,
dEPSILON UNDERBAR,dIOTA UNDERBAR,dOMEGA UNDERBAR,dALPHA,aNOT CHECK MARK,
aRIGHT ANGLE WITH DOWNWARDS ZIGZAG ARROW,aSHOULDERED OPEN BOX,aBELL SYMBOL,
aVERTICAL LINE WITH MIDDLE DOT,aINSERTION SYMBOL,aCONTINUOUS UNDERLINE SYMBOL,
aDISCONTINUOUS UNDERLINE SYMBOL,aEMPHASIS SYMBOL,aCOMPOSITION SYMBOL,
aWHITE SQUARE WITH CENTRE VERTICAL LINE,aENTER SYMBOL,aALTERNATIVE KEY SYMBOL,aHELM SYMBOL,
aCIRCLED HORIZONTAL BAR WITH NOTCH,bTRIANGLE DOWN,aBROKEN CIRCLE WITH NORTHWEST ARROW,
aUNDO SYMBOL,aMONOSTABLE SYMBOL,aHYSTERESIS SYMBOL,aOPEN-CIRCUIT-OUTPUT H-TYPE SYMBOL,
bL-TYPE SYMBOL,aPASSIVE-PULL-DOWN-OUTPUT SYMBOL,aPASSIVE-PULL-UP-OUTPUT SYMBOL,
aDIRECT CURRENT SYMBOL FORM TWO,aSOFTWARE-FUNCTION SYMBOL,aAPL FUNCTIONAL SYMBOL QUAD,
aDECIMAL SEPARATOR KEY SYMBOL,aPREVIOUS PAGE,aNEXT PAGE,aPRINT SCREEN SYMBOL,
aCLEAR SCREEN SYMBOL,aLEFT PARENTHESIS UPPER HOOK,cEXTENSION,cLOWER HOOK,
aRIGHT PARENTHESIS UPPER HOOK,cEXTENSION,cLOWER HOOK,aLEFT SQUARE BRACKET UPPER CORNER,
dEXTENSION,dLOWER CORNER,aRIGHT SQUARE BRACKET UPPER CORNER,dEXTENSION,dLOWER CORNER,
aLEFT CURLY BRACKET UPPER HOOK,dMIDDLE PIECE,dLOWER HOOK,aCURLY BRACKET EXTENSION,
aRIGHT CURLY BRACKET UPPER HOOK,dMIDDLE PIECE,dLOWER HOOK,aINTEGRAL EXTENSION,
aHORIZONTAL LINE EXTENSION,aUPPER LEFT OR LOWER RIGHT CURLY BRACKET SECTION,
bRIGHT OR LOWER LEFT CURLY BRACKET SECTION,aSUMMATION TOP,bBOTTOM,aTOP SQUARE BRACKET,
aBOTTOM SQUARE BRACKET,dOVER TOP SQUARE BRACKET,aRADICAL SYMBOL BOTTOM,aLEFT VERTICAL BOX LINE,
aRIGHT VERTICAL BOX LINE,aHORIZONTAL SCAN LINE-1,cLINE-3,cLINE-7,cLINE-9,
aDENTISTRY SYMBOL LIGHT VERTICAL AND TOP RIGHT,fBOTTOM RIGHT,eWITH CIRCLE,
dDOWN AND HORIZONTAL WITH CIRCLE,dUP AND HORIZONTAL WITH CIRCLE,dVERTICAL WITH TRIANGLE,
dDOWN AND HORIZONTAL WITH TRIANGLE,dUP AND HORIZONTAL WITH TRIANGLE,dVERTICAL AND WAVE,
dDOWN AND HORIZONTAL WITH WAVE,dUP AND HORIZONTAL WITH WAVE,dDOWN AND HORIZONTAL,
dUP AND HORIZONTAL,dVERTICAL AND TOP LEFT,fBOTTOM LEFT,aSQUARE FOOT,aRETURN SYMBOL,aEJECT SYMBOL,
aVERTICAL LINE EXTENSION,aMETRICAL BREVE,bLONG OVER SHORT,bSHORT OVER LONG,bLONG OVER TWO SHORTS,
bTWO SHORTS OVER LONG,dJOINED,bTRISEME,bTETRASEME,bPENTASEME,aEARTH GROUND,aFUSE,
aTOP PARENTHESIS,aBOTTOM PARENTHESIS,aTOP CURLY BRACKET,aBOTTOM CURLY BRACKET,
aTOP TORTOISE SHELL BRACKET,aBOTTOM TORTOISE SHELL BRACKET,aWHITE TRAPEZIUM,
aBENZENE RING WITH CIRCLE,aSTRAIGHTNESS,aFLATNESS,aAC CURRENT,aELECTRICAL INTERSECTION,
aDECIMAL EXPONENT SYMBOL,aBLACK RIGHT-POINTING DOUBLE TRIANGLE,bLEFT-POINTING DOUBLE TRIANGLE,
bUP-POINTING DOUBLE TRIANGLE,bDOWN-POINTING DOUBLE TRIANGLE,
bRIGHT-POINTING DOUBLE TRIANGLE WITH VERTICAL BAR,
bLEFT-POINTING DOUBLE TRIANGLE WITH VERTICAL BAR,
bRIGHT-POINTING TRIANGLE WITH DOUBLE VERTICAL BAR,aALARM CLOCK,aSTOPWATCH,aTIMER CLOCK,
aHOURGLASS WITH FLOWING SAND,aBLACK MEDIUM LEFT-POINTING TRIANGLE,cRIGHT-POINTING TRIANGLE,
cUP-POINTING TRIANGLE,cDOWN-POINTING TRIANGLE,aDOUBLE VERTICAL BAR,aBLACK SQUARE FOR STOP,
bCIRCLE FOR RECORD,aPOWER SYMBOL,bON-OFF SYMBOL,bON SYMBOL,bSLEEP SYMBOL,aOBSERVER EYE SYMBOL,
aSYMBOL FOR NULL,cSTART OF HEADING,eTEXT,cEND OF TEXT,eTRANSMISSION,cENQUIRY,cACKNOWLEDGE,cBELL,
cBACKSPACE,cHORIZONTAL TABULATION,cLINE FEED,cVERTICAL TABULATION,cFORM FEED,cCARRIAGE RETURN,
cSHIFT OUT,dIN,cDATA LINK ESCAPE,cDEVICE CONTROL ONE,eTWO,eTHREE,eFOUR,cNEGATIVE ACKNOWLEDGE,
cSYNCHRONOUS IDLE,cEND OF TRANSMISSION BLOCK,cCANCEL,cEND OF MEDIUM,cSUBSTITUTE,cESCAPE,
cFILE SEPARATOR,cGROUP SEPARATOR,cRECORD SEPARATOR,cUNIT SEPARATOR,cSPACE,cDELETE,aBLANK SYMBOL,
aOPEN BOX,aSYMBOL FOR NEWLINE,cDELETE FORM TWO,cSUBSTITUTE FORM TWO,@2440,aOCR HOOK,bCHAIR,bFORK,
bINVERTED FORK,bBELT BUCKLE,bBOW TIE,bBRANCH BANK IDENTIFICATION,bAMOUNT OF CHECK,bDASH,
bCUSTOMER ACCOUNT NUMBER,bDOUBLE BACKSLASH,@2460,aCIRCLED DIGIT ONE,cTWO,cTHREE,cFOUR,cFIVE,cSIX,
cSEVEN,cEIGHT,cNINE,bNUMBER TEN,cELEVEN,cTWELVE,cTHIRTEEN,cFOURTEEN,cFIFTEEN,cSIXTEEN,cSEVENTEEN,
cEIGHTEEN,cNINETEEN,cTWENTY,aPARENTHESIZED DIGIT ONE,cTWO,cTHREE,cFOUR,cFIVE,cSIX,cSEVEN,cEIGHT,
cNINE,bNUMBER TEN,cELEVEN,cTWELVE,cTHIRTEEN,cFOURTEEN,cFIFTEEN,cSIXTEEN,cSEVENTEEN,cEIGHTEEN,
cNINETEEN,cTWENTY,aDIGIT ONE FULL STOP,bTWO FULL STOP,bTHREE FULL STOP,bFOUR FULL STOP,
bFIVE FULL STOP,bSIX FULL STOP,bSEVEN FULL STOP,bEIGHT FULL STOP,bNINE FULL STOP,
aNUMBER TEN FULL STOP,bELEVEN FULL STOP,bTWELVE FULL STOP,bTHIRTEEN FULL STOP,
bFOURTEEN FULL STOP,bFIFTEEN FULL STOP,bSIXTEEN FULL STOP,bSEVENTEEN FULL STOP,
bEIGHTEEN FULL STOP,bNINETEEN FULL STOP,bTWENTY FULL STOP,aPARENTHESIZED LATIN SMALL LETTER A,eB,
eC,eD,eE,eF,eG,eH,eI,eJ,eK,eL,eM,eN,eO,eP,eQ,eR,eS,eT,eU,eV,eW,eX,eY,eZ,
aCIRCLED LATIN CAPITAL LETTER A,eB,eC,eD,eE,eF,eG,eH,eI,eJ,eK,eL,eM,eN,eO,eP,eQ,eR,eS,eT,eU,eV,
eW,eX,eY,eZ,cSMALL LETTER A,eB,eC,eD,eE,eF,eG,eH,eI,eJ,eK,eL,eM,eN,eO,eP,eQ,eR,eS,eT,eU,eV,eW,eX,
eY,eZ,bDIGIT ZERO,aNEGATIVE CIRCLED NUMBER ELEVEN,dTWELVE,dTHIRTEEN,dFOURTEEN,dFIFTEEN,dSIXTEEN,
dSEVENTEEN,dEIGHTEEN,dNINETEEN,dTWENTY,aDOUBLE CIRCLED DIGIT ONE,dTWO,dTHREE,dFOUR,dFIVE,dSIX,
dSEVEN,dEIGHT,dNINE,cNUMBER TEN,aNEGATIVE CIRCLED DIGIT ZERO,aBOX DRAWINGS LIGHT HORIZONTAL,
cHEAVY HORIZONTAL,cLIGHT VERTICAL,cHEAVY VERTICAL,cLIGHT TRIPLE DASH HORIZONTAL,
cHEAVY TRIPLE DASH HORIZONTAL,cLIGHT TRIPLE DASH VERTICAL,cHEAVY TRIPLE DASH VERTICAL,
cLIGHT QUADRUPLE DASH HORIZONTAL,cHEAVY QUADRUPLE DASH HORIZONTAL,cLIGHT QUADRUPLE DASH VERTICAL,
cHEAVY QUADRUPLE DASH VERTICAL,cLIGHT DOWN AND RIGHT,cDOWN LIGHT AND RIGHT HEAVY,
dHEAVY AND RIGHT LIGHT,cHEAVY DOWN AND RIGHT,cLIGHT DOWN AND LEFT,cDOWN LIGHT AND LEFT HEAVY,
dHEAVY AND LEFT LIGHT,cHEAVY DOWN AND LEFT,cLIGHT UP AND RIGHT,cUP LIGHT AND RIGHT HEAVY,
dHEAVY AND RIGHT LIGHT,cHEAVY UP AND RIGHT,cLIGHT UP AND LEFT,cUP LIGHT AND LEFT HEAVY,
dHEAVY AND LEFT LIGHT,cHEAVY UP AND LEFT,cLIGHT VERTICAL AND RIGHT,
cVERTICAL LIGHT AND RIGHT HEAVY,cUP HEAVY AND RIGHT DOWN LIGHT,cDOWN HEAVY AND RIGHT UP LIGHT,
cVERTICAL HEAVY AND RIGHT LIGHT,cDOWN LIGHT AND RIGHT UP HEAVY,cUP LIGHT AND RIGHT DOWN HEAVY,
cHEAVY VERTICAL AND RIGHT,cLIGHT VERTICAL AND LEFT,cVERTICAL LIGHT AND LEFT HEAVY,
cUP HEAVY AND LEFT DOWN LIGHT,cDOWN HEAVY AND LEFT UP LIGHT,cVERTICAL HEAVY AND LEFT LIGHT,
cDOWN LIGHT AND LEFT UP HEAVY,cUP LIGHT AND LEFT DOWN HEAVY,cHEAVY VERTICAL AND LEFT,
cLIGHT DOWN AND HORIZONTAL,cLEFT HEAVY AND RIGHT DOWN LIGHT,cRIGHT HEAVY AND LEFT DOWN LIGHT,
cDOWN LIGHT AND HORIZONTAL HEAVY,dHEAVY AND HORIZONTAL LIGHT,cRIGHT LIGHT AND LEFT DOWN HEAVY,
cLEFT LIGHT AND RIGHT DOWN HEAVY,cHEAVY DOWN AND HORIZONTAL,cLIGHT UP AND HORIZONTAL,
cLEFT HEAVY AND RIGHT UP LIGHT,cRIGHT HEAVY AND LEFT UP LIGHT,cUP LIGHT AND HORIZONTAL HEAVY,
dHEAVY AND HORIZONTAL LIGHT,cRIGHT LIGHT AND LEFT UP HEAVY,cLEFT LIGHT AND RIGHT UP HEAVY,
cHEAVY UP AND HORIZONTAL,cLIGHT VERTICAL AND HORIZONTAL,cLEFT HEAVY AND RIGHT VERTICAL LIGHT,
cRIGHT HEAVY AND LEFT VERTICAL LIGHT,cVERTICAL LIGHT AND HORIZONTAL HEAVY,
cUP HEAVY AND DOWN HORIZONTAL LIGHT,cDOWN HEAVY AND UP HORIZONTAL LIGHT,
cVERTICAL HEAVY AND HORIZONTAL LIGHT,cLEFT UP HEAVY AND RIGHT DOWN LIGHT,
cRIGHT UP HEAVY AND LEFT DOWN LIGHT,cLEFT DOWN HEAVY AND RIGHT UP LIGHT,
cRIGHT DOWN HEAVY AND LEFT UP LIGHT,cDOWN LIGHT AND UP HORIZONTAL HEAVY,
cUP LIGHT AND DOWN HORIZONTAL HEAVY,cRIGHT LIGHT AND LEFT VERTICAL HEAVY,
cLEFT LIGHT AND RIGHT VERTICAL HEAVY,cHEAVY VERTICAL AND HORIZONTAL,
cLIGHT DOUBLE DASH HORIZONTAL,cHEAVY DOUBLE DASH HORIZONTAL,cLIGHT DOUBLE DASH VERTICAL,
cHEAVY DOUBLE DASH VERTICAL,cDOUBLE HORIZONTAL,dVERTICAL,cDOWN SINGLE AND RIGHT DOUBLE,
dDOUBLE AND RIGHT SINGLE,cDOUBLE DOWN AND RIGHT,cDOWN SINGLE AND LEFT DOUBLE,
dDOUBLE AND LEFT SINGLE,cDOUBLE DOWN AND LEFT,cUP SINGLE AND RIGHT DOUBLE,
dDOUBLE AND RIGHT SINGLE,cDOUBLE UP AND RIGHT,cUP SINGLE AND LEFT DOUBLE,dDOUBLE AND LEFT SINGLE,
cDOUBLE UP AND LEFT,cVERTICAL SINGLE AND RIGHT DOUBLE,dDOUBLE AND RIGHT SINGLE,
cDOUBLE VERTICAL AND RIGHT,cVERTICAL SINGLE AND LEFT DOUBLE,dDOUBLE AND LEFT SINGLE,
cDOUBLE VERTICAL AND LEFT,cDOWN SINGLE AND HORIZONTAL DOUBLE,dDOUBLE AND HORIZONTAL SINGLE,
cDOUBLE DOWN AND HORIZONTAL,cUP SINGLE AND HORIZONTAL DOUBLE,dDOUBLE AND HORIZONTAL SINGLE,
cDOUBLE UP AND HORIZONTAL,cVERTICAL SINGLE AND HORIZONTAL DOUBLE,dDOUBLE AND HORIZONTAL SINGLE,
cDOUBLE VERTICAL AND HORIZONTAL,cLIGHT ARC DOWN AND RIGHT,gLEFT,eUP AND LEFT,gRIGHT,
dDIAGONAL UPPER RIGHT TO LOWER LEFT,fLEFT TO LOWER RIGHT,eCROSS,dLEFT,dUP,dRIGHT,dDOWN,
cHEAVY LEFT,dUP,dRIGHT,dDOWN,cLIGHT LEFT AND HEAVY RIGHT,dUP AND HEAVY DOWN,
cHEAVY LEFT AND LIGHT RIGHT,dUP AND LIGHT DOWN,aUPPER HALF BLOCK,aLOWER ONE EIGHTH BLOCK,
cQUARTER BLOCK,bTHREE EIGHTHS BLOCK,bHALF BLOCK,bFIVE EIGHTHS BLOCK,bTHREE QUARTERS BLOCK,
bSEVEN EIGHTHS BLOCK,aFULL BLOCK,aLEFT SEVEN EIGHTHS BLOCK,bTHREE QUARTERS BLOCK,
bFIVE EIGHTHS BLOCK,bHALF BLOCK,bTHREE EIGHTHS BLOCK,bONE QUARTER BLOCK,cEIGHTH BLOCK,
aRIGHT HALF BLOCK,aLIGHT SHADE,aMEDIUM SHADE,aDARK SHADE,aUPPER ONE EIGHTH BLOCK,
aRIGHT ONE EIGHTH BLOCK,aQUADRANT LOWER LEFT,cRIGHT,bUPPER LEFT,dAND LOWER LEFT AND LOWER RIGHT,
fRIGHT,eUPPER RIGHT AND LOWER LEFT,iRIGHT,cRIGHT,dAND LOWER LEFT,gAND LOWER RIGHT,aBLACK SQUARE,
aWHITE SQUARE,cWITH ROUNDED CORNERS,cCONTAINING BLACK SMALL SQUARE,aSQUARE WITH HORIZONTAL FILL,
cVERTICAL FILL,cORTHOGONAL CROSSHATCH FILL,cUPPER LEFT TO LOWER RIGHT FILL,
dRIGHT TO LOWER LEFT FILL,cDIAGONAL CROSSHATCH FILL,aBLACK SMALL SQUARE,aWHITE SMALL SQUARE,
aBLACK RECTANGLE,aWHITE RECTANGLE,aBLACK VERTICAL RECTANGLE,aWHITE VERTICAL RECTANGLE,
aBLACK PARALLELOGRAM,aWHITE PARALLELOGRAM,aBLACK UP-POINTING TRIANGLE,
aWHITE UP-POINTING TRIANGLE,aBLACK UP-POINTING SMALL TRIANGLE,aWHITE UP-POINTING SMALL TRIANGLE,
aBLACK RIGHT-POINTING TRIANGLE,aWHITE RIGHT-POINTING TRIANGLE,
aBLACK RIGHT-POINTING SMALL TRIANGLE,aWHITE RIGHT-POINTING SMALL TRIANGLE,
aBLACK RIGHT-POINTING POINTER,aWHITE RIGHT-POINTING POINTER,aBLACK DOWN-POINTING TRIANGLE,
aWHITE DOWN-POINTING TRIANGLE,aBLACK DOWN-POINTING SMALL TRIANGLE,
aWHITE DOWN-POINTING SMALL TRIANGLE,aBLACK LEFT-POINTING TRIANGLE,aWHITE LEFT-POINTING TRIANGLE,
aBLACK LEFT-POINTING SMALL TRIANGLE,aWHITE LEFT-POINTING SMALL TRIANGLE,
aBLACK LEFT-POINTING POINTER,aWHITE LEFT-POINTING POINTER,aBLACK DIAMOND,aWHITE DIAMOND,
cCONTAINING BLACK SMALL DIAMOND,aFISHEYE,aLOZENGE,aWHITE CIRCLE,aDOTTED CIRCLE,
aCIRCLE WITH VERTICAL FILL,aBULLSEYE,aBLACK CIRCLE,aCIRCLE WITH LEFT HALF BLACK,
cRIGHT HALF BLACK,cLOWER HALF BLACK,cUPPER HALF BLACK,dRIGHT QUADRANT BLACK,
cALL BUT UPPER LEFT QUADRANT BLACK,aLEFT HALF BLACK CIRCLE,aRIGHT HALF BLACK CIRCLE,
aINVERSE BULLET,bWHITE CIRCLE,aUPPER HALF INVERSE WHITE CIRCLE,aLOWER HALF INVERSE WHITE CIRCLE,
aUPPER LEFT QUADRANT CIRCULAR ARC,bRIGHT QUADRANT CIRCULAR ARC,
aLOWER RIGHT QUADRANT CIRCULAR ARC,bLEFT QUADRANT CIRCULAR ARC,aUPPER HALF CIRCLE,
aLOWER HALF CIRCLE,aBLACK LOWER RIGHT TRIANGLE,cLEFT TRIANGLE,bUPPER LEFT TRIANGLE,
cRIGHT TRIANGLE,aWHITE BULLET,aSQUARE WITH LEFT HALF BLACK,cRIGHT HALF BLACK,
cUPPER LEFT DIAGONAL HALF BLACK,cLOWER RIGHT DIAGONAL HALF BLACK,
aWHITE SQUARE WITH VERTICAL BISECTING LINE,bUP-POINTING TRIANGLE WITH DOT,
aUP-POINTING TRIANGLE WITH LEFT HALF BLACK,dRIGHT HALF BLACK,aLARGE CIRCLE,
aWHITE SQUARE WITH UPPER LEFT QUADRANT,dLOWER LEFT QUADRANT,eRIGHT QUADRANT,
dUPPER RIGHT QUADRANT,bCIRCLE WITH UPPER LEFT QUADRANT,dLOWER LEFT QUADRANT,eRIGHT QUADRANT,
dUPPER RIGHT QUADRANT,aUPPER LEFT TRIANGLE,bRIGHT TRIANGLE,aLOWER LEFT TRIANGLE,
aWHITE MEDIUM SQUARE,aBLACK MEDIUM SQUARE,aWHITE MEDIUM SMALL SQUARE,aBLACK MEDIUM SMALL SQUARE,
aLOWER RIGHT TRIANGLE,aBLACK SUN WITH RAYS,aCLOUD,aUMBRELLA,aSNOWMAN,aCOMET,aBLACK STAR,
aWHITE STAR,aLIGHTNING,aTHUNDERSTORM,aSUN,aASCENDING NODE,aDESCENDING NODE,aCONJUNCTION,
aOPPOSITION,aBLACK TELEPHONE,aWHITE TELEPHONE,aBALLOT BOX,cWITH CHECK,dX,aSALTIRE,
aUMBRELLA WITH RAIN DROPS,aHOT BEVERAGE,aWHITE SHOGI PIECE,aBLACK SHOGI PIECE,aSHAMROCK,
aREVERSED ROTATED FLORAL HEART BULLET,aBLACK LEFT POINTING INDEX,bRIGHT POINTING INDEX,
aWHITE LEFT POINTING INDEX,bUP POINTING INDEX,bRIGHT POINTING INDEX,bDOWN POINTING INDEX,
aSKULL AND CROSSBONES,aCAUTION SIGN,aRADIOACTIVE SIGN,aBIOHAZARD SIGN,aCADUCEUS,aANKH,
aORTHODOX CROSS,aCHI RHO,aCROSS OF LORRAINE,cJERUSALEM,aSTAR AND CRESCENT,aFARSI SYMBOL,
aADI SHAKTI,aHAMMER AND SICKLE,aPEACE SYMBOL,aYIN YANG,aTRIGRAM FOR HEAVEN,cLAKE,cFIRE,cTHUNDER,
cWIND,cWATER,cMOUNTAIN,cEARTH,aWHEEL OF DHARMA,aWHITE FROWNING FACE,bSMILING FACE,
aBLACK SMILING FACE,aWHITE SUN WITH RAYS,aFIRST QUARTER MOON,aLAST QUARTER MOON,aMERCURY,
aFEMALE SIGN,aEARTH,aMALE SIGN,aJUPITER,aSATURN,aURANUS,aNEPTUNE,aPLUTO,aARIES,aTAURUS,aGEMINI,
aCANCER,aLEO,aVIRGO,aLIBRA,aSCORPIUS,aSAGITTARIUS,aCAPRICORN,aAQUARIUS,aPISCES,aWHITE CHESS KING,
cQUEEN,cROOK,cBISHOP,cKNIGHT,cPAWN,aBLACK CHESS KING,cQUEEN,cROOK,cBISHOP,cKNIGHT,cPAWN,
bSPADE SUIT,aWHITE HEART SUIT,bDIAMOND SUIT,aBLACK CLUB SUIT,aWHITE SPADE SUIT,aBLACK HEART SUIT,
bDIAMOND SUIT,aWHITE CLUB SUIT,aHOT SPRINGS,aQUARTER NOTE,aEIGHTH NOTE,aBEAMED EIGHTH NOTES,
bSIXTEENTH NOTES,aMUSIC FLAT SIGN,bNATURAL SIGN,bSHARP SIGN,aWEST SYRIAC CROSS,
aEAST SYRIAC CROSS,aUNIVERSAL RECYCLING SYMBOL,aRECYCLING SYMBOL FOR TYPE-1 PLASTICS,
dTYPE-2 PLASTICS,dTYPE-3 PLASTICS,dTYPE-4 PLASTICS,dTYPE-5 PLASTICS,dTYPE-6 PLASTICS,
dTYPE-7 PLASTICS,dGENERIC MATERIALS,aBLACK UNIVERSAL RECYCLING SYMBOL,aRECYCLED PAPER SYMBOL,
aPARTIALLY-RECYCLED PAPER SYMBOL,aPERMANENT PAPER SIGN,aWHEELCHAIR SYMBOL,aDIE FACE-1,bFACE-2,
bFACE-3,bFACE-4,bFACE-5,bFACE-6,aWHITE CIRCLE WITH DOT RIGHT,dTWO DOTS,
aBLACK CIRCLE WITH WHITE DOT RIGHT,dTWO WHITE DOTS,aMONOGRAM FOR YANG,cYIN,
aDIGRAM FOR GREATER YANG,cLESSER YIN,dYANG,cGREATER YIN,aWHITE FLAG,aBLACK FLAG,aHAMMER AND PICK,
aANCHOR,aCROSSED SWORDS,aSTAFF OF AESCULAPIUS,aSCALES,aALEMBIC,aFLOWER,aGEAR,aSTAFF OF HERMES,
aATOM SYMBOL,aFLEUR-DE-LIS,aOUTLINED WHITE STAR,aTHREE LINES CONVERGING RIGHT,dLEFT,
aWARNING SIGN,aHIGH VOLTAGE SIGN,aDOUBLED FEMALE SIGN,bMALE SIGN,
aINTERLOCKED FEMALE AND MALE SIGN,aMALE AND FEMALE SIGN,bWITH STROKE SIGN,
dAND MALE AND FEMALE SIGN,aVERTICAL MALE WITH STROKE SIGN,aHORIZONTAL MALE WITH STROKE SIGN,
aMEDIUM WHITE CIRCLE,bBLACK CIRCLE,bSMALL WHITE CIRCLE,aMARRIAGE SYMBOL,aDIVORCE SYMBOL,
aUNMARRIED PARTNERSHIP SYMBOL,aCOFFIN,aFUNERAL URN,aNEUTER,aCERES,aPALLAS,aJUNO,aVESTA,aCHIRON,
aBLACK MOON LILITH,aSEXTILE,aSEMISEXTILE,aQUINCUNX,aSESQUIQUADRATE,aSOCCER BALL,aBASEBALL,
aSQUARED KEY,aWHITE DRAUGHTS MAN,cKING,aBLACK DRAUGHTS MAN,cKING,aSNOWMAN WITHOUT SNOW,
aSUN BEHIND CLOUD,aRAIN,aBLACK SNOWMAN,aTHUNDER CLOUD AND RAIN,aTURNED WHITE SHOGI PIECE,
bBLACK SHOGI PIECE,aWHITE DIAMOND IN SQUARE,aCROSSING LANES,aDISABLED CAR,aOPHIUCHUS,aPICK,
aCAR SLIDING,aHELMET WITH WHITE CROSS,aCIRCLED CROSSING LANES,aCHAINS,aNO ENTRY,
aALTERNATE ONE-WAY LEFT WAY TRAFFIC,aBLACK TWO-WAY LEFT WAY TRAFFIC,
aWHITE TWO-WAY LEFT WAY TRAFFIC,aBLACK LEFT LANE MERGE,aWHITE LEFT LANE MERGE,aDRIVE SLOW SIGN,
aHEAVY WHITE DOWN-POINTING TRIANGLE,aLEFT CLOSED ENTRY,aSQUARED SALTIRE,
aFALLING DIAGONAL IN WHITE CIRCLE IN BLACK SQUARE,aBLACK TRUCK,aRESTRICTED LEFT ENTRY-1,cENTRY-2,
aASTRONOMICAL SYMBOL FOR URANUS,aHEAVY CIRCLE WITH STROKE AND TWO DOTS ABOVE,aPENTAGRAM,
aRIGHT-HANDED INTERLACED PENTAGRAM,aLEFT-HANDED INTERLACED PENTAGRAM,aINVERTED PENTAGRAM,
aBLACK CROSS ON SHIELD,aSHINTO SHRINE,aCHURCH,aCASTLE,aHISTORIC SITE,aGEAR WITHOUT HUB,
bWITH HANDLES,aMAP SYMBOL FOR LIGHTHOUSE,aMOUNTAIN,aUMBRELLA ON GROUND,aFOUNTAIN,aFLAG IN HOLE,
aFERRY,aSAILBOAT,aSQUARE FOUR CORNERS,aSKIER,aICE SKATE,aPERSON WITH BALL,aTENT,
aJAPANESE BANK SYMBOL,aHEADSTONE GRAVEYARD SYMBOL,aFUEL PUMP,aCUP ON BLACK SQUARE,
aWHITE FLAG WITH HORIZONTAL MIDDLE BLACK STRIPE,aBLACK SAFETY SCISSORS,aUPPER BLADE SCISSORS,
aBLACK SCISSORS,aLOWER BLADE SCISSORS,aWHITE SCISSORS,bHEAVY CHECK MARK,aTELEPHONE LOCATION SIGN,
aTAPE DRIVE,aAIRPLANE,aENVELOPE,aRAISED FIST,bHAND,aVICTORY HAND,aWRITING HAND,
aLOWER RIGHT PENCIL,aPENCIL,aUPPER RIGHT PENCIL,aWHITE NIB,aBLACK NIB,aCHECK MARK,
aHEAVY CHECK MARK,aMULTIPLICATION X,aHEAVY MULTIPLICATION X,aBALLOT X,aHEAVY BALLOT X,
aOUTLINED GREEK CROSS,aHEAVY GREEK CROSS,aOPEN CENTRE CROSS,aHEAVY OPEN CENTRE CROSS,
aLATIN CROSS,aSHADOWED WHITE LATIN CROSS,aOUTLINED LATIN CROSS,aMALTESE CROSS,aSTAR OF DAVID,
aFOUR TEARDROP-SPOKED ASTERISK,bBALLOON-SPOKED ASTERISK,aHEAVY FOUR BALLOON-SPOKED ASTERISK,
aFOUR CLUB-SPOKED ASTERISK,aBLACK FOUR POINTED STAR,aWHITE FOUR POINTED STAR,aSPARKLES,
aSTRESS OUTLINED WHITE STAR,aCIRCLED WHITE STAR,aOPEN CENTRE BLACK STAR,aBLACK CENTRE WHITE STAR,
aOUTLINED BLACK STAR,aHEAVY OUTLINED BLACK STAR,aPINWHEEL STAR,aSHADOWED WHITE STAR,
aHEAVY ASTERISK,aOPEN CENTRE ASTERISK,aEIGHT SPOKED ASTERISK,bPOINTED BLACK STAR,cPINWHEEL STAR,
aSIX POINTED BLACK STAR,aEIGHT POINTED RECTILINEAR BLACK STAR,
aHEAVY EIGHT POINTED RECTILINEAR BLACK STAR,aTWELVE POINTED BLACK STAR,aSIXTEEN POINTED ASTERISK,
aTEARDROP-SPOKED ASTERISK,aOPEN CENTRE TEARDROP-SPOKED ASTERISK,aHEAVY TEARDROP-SPOKED ASTERISK,
aSIX PETALLED BLACK AND WHITE FLORETTE,aBLACK FLORETTE,aWHITE FLORETTE,
aEIGHT PETALLED OUTLINED BLACK FLORETTE,aCIRCLED OPEN CENTRE EIGHT POINTED STAR,
aHEAVY TEARDROP-SPOKED PINWHEEL ASTERISK,aSNOWFLAKE,aTIGHT TRIFOLIATE SNOWFLAKE,
aHEAVY CHEVRON SNOWFLAKE,aSPARKLE,aHEAVY SPARKLE,aBALLOON-SPOKED ASTERISK,
aEIGHT TEARDROP-SPOKED PROPELLER ASTERISK,aHEAVY EIGHT TEARDROP-SPOKED PROPELLER ASTERISK,
aCROSS MARK,aSHADOWED WHITE CIRCLE,aNEGATIVE SQUARED CROSS MARK,
aLOWER RIGHT DROP-SHADOWED WHITE SQUARE,aUPPER RIGHT DROP-SHADOWED WHITE SQUARE,
aLOWER RIGHT SHADOWED WHITE SQUARE,aUPPER RIGHT SHADOWED WHITE SQUARE,
aBLACK QUESTION MARK ORNAMENT,aWHITE QUESTION MARK ORNAMENT,bEXCLAMATION MARK ORNAMENT,
aBLACK DIAMOND MINUS WHITE X,aHEAVY EXCLAMATION MARK SYMBOL,aLIGHT VERTICAL BAR,
aMEDIUM VERTICAL BAR,aHEAVY VERTICAL BAR,bSINGLE TURNED COMMA QUOTATION MARK ORNAMENT,
cCOMMA QUOTATION MARK ORNAMENT,bDOUBLE TURNED COMMA QUOTATION MARK ORNAMENT,
cCOMMA QUOTATION MARK ORNAMENT,bLOW SINGLE COMMA QUOTATION MARK ORNAMENT,
cDOUBLE COMMA QUOTATION MARK ORNAMENT,aCURVED STEM PARAGRAPH SIGN ORNAMENT,
aHEAVY EXCLAMATION MARK ORNAMENT,bHEART EXCLAMATION MARK ORNAMENT,bBLACK HEART,
aROTATED HEAVY BLACK HEART BULLET,aFLORAL HEART,aROTATED FLORAL HEART BULLET,
aMEDIUM LEFT PARENTHESIS ORNAMENT,bRIGHT PARENTHESIS ORNAMENT,
bFLATTENED LEFT PARENTHESIS ORNAMENT,cRIGHT PARENTHESIS ORNAMENT,
bLEFT-POINTING ANGLE BRACKET ORNAMENT,bRIGHT-POINTING ANGLE BRACKET ORNAMENT,
aHEAVY LEFT-POINTING ANGLE QUOTATION MARK ORNAMENT,bRIGHT-POINTING ANGLE QUOTATION MARK ORNAMENT,
bLEFT-POINTING ANGLE BRACKET ORNAMENT,bRIGHT-POINTING ANGLE BRACKET ORNAMENT,
aLIGHT LEFT TORTOISE SHELL BRACKET ORNAMENT,bRIGHT TORTOISE SHELL BRACKET ORNAMENT,
aMEDIUM LEFT CURLY BRACKET ORNAMENT,bRIGHT CURLY BRACKET ORNAMENT,
aDINGBAT NEGATIVE CIRCLED DIGIT ONE,eTWO,eTHREE,eFOUR,eFIVE,eSIX,eSEVEN,eEIGHT,eNINE,dNUMBER TEN,
bCIRCLED SANS-SERIF DIGIT ONE,eTWO,eTHREE,eFOUR,eFIVE,eSIX,eSEVEN,eEIGHT,eNINE,dNUMBER TEN,
bNEGATIVE CIRCLED SANS-SERIF DIGIT ONE,fTWO,fTHREE,fFOUR,fFIVE,fSIX,fSEVEN,fEIGHT,fNINE,
eNUMBER TEN,aHEAVY WIDE-HEADED RIGHTWARDS ARROW,bPLUS SIGN,bMINUS SIGN,bDIVISION SIGN,
bSOUTH EAST ARROW,bRIGHTWARDS ARROW,bNORTH EAST ARROW,aDRAFTING POINT RIGHTWARDS ARROW,
aHEAVY ROUND-TIPPED RIGHTWARDS ARROW,aTRIANGLE-HEADED RIGHTWARDS ARROW,
aHEAVY TRIANGLE-HEADED RIGHTWARDS ARROW,aDASHED TRIANGLE-HEADED RIGHTWARDS ARROW,
aHEAVY DASHED TRIANGLE-HEADED RIGHTWARDS ARROW,aBLACK RIGHTWARDS ARROW,
aTHREE-D TOP-LIGHTED RIGHTWARDS ARROWHEAD,bBOTTOM-LIGHTED RIGHTWARDS ARROWHEAD,
aBLACK RIGHTWARDS ARROWHEAD,aHEAVY BLACK CURVED DOWNWARDS AND RIGHTWARDS ARROW,
dUPWARDS AND RIGHTWARDS ARROW,aSQUAT BLACK RIGHTWARDS ARROW,
aHEAVY CONCAVE-POINTED BLACK RIGHTWARDS ARROW,aRIGHT-SHADED WHITE RIGHTWARDS ARROW,
aLEFT-SHADED WHITE RIGHTWARDS ARROW,aBACK-TILTED SHADOWED WHITE RIGHTWARDS ARROW,
aFRONT-TILTED SHADOWED WHITE RIGHTWARDS ARROW,aHEAVY LOWER RIGHT-SHADOWED WHITE RIGHTWARDS ARROW,
bUPPER RIGHT-SHADOWED WHITE RIGHTWARDS ARROW,
aNOTCHED LOWER RIGHT-SHADOWED WHITE RIGHTWARDS ARROW,aCURLY LOOP,
aNOTCHED UPPER RIGHT-SHADOWED WHITE RIGHTWARDS ARROW,aCIRCLED HEAVY WHITE RIGHTWARDS ARROW,
aWHITE-FEATHERED RIGHTWARDS ARROW,aBLACK-FEATHERED SOUTH EAST ARROW,bRIGHTWARDS ARROW,
bNORTH EAST ARROW,aHEAVY BLACK-FEATHERED SOUTH EAST ARROW,cRIGHTWARDS ARROW,cNORTH EAST ARROW,
aTEARDROP-BARBED RIGHTWARDS ARROW,aHEAVY TEARDROP-SHANKED RIGHTWARDS ARROW,
aWEDGE-TAILED RIGHTWARDS ARROW,aHEAVY WEDGE-TAILED RIGHTWARDS ARROW,
aOPEN-OUTLINED RIGHTWARDS ARROW,aDOUBLE CURLY LOOP,aTHREE DIMENSIONAL ANGLE,
aWHITE TRIANGLE CONTAINING SMALL WHITE TRIANGLE,aPERPENDICULAR,aOPEN SUBSET,bSUPERSET,
aLEFT S-SHAPED BAG DELIMITER,aRIGHT S-SHAPED BAG DELIMITER,aOR WITH DOT INSIDE,
aREVERSE SOLIDUS PRECEDING SUBSET,aSUPERSET PRECEDING SOLIDUS,
aVERTICAL BAR WITH HORIZONTAL STROKE,aMATHEMATICAL RISING DIAGONAL,aLONG DIVISION,
aMATHEMATICAL FALLING DIAGONAL,aSQUARED LOGICAL AND,cOR,aWHITE DIAMOND WITH CENTRED DOT,
aAND WITH DOT,aELEMENT OF OPENING UPWARDS,aLOWER RIGHT CORNER WITH DOT,
aUPPER LEFT CORNER WITH DOT,aLEFT OUTER JOIN,aRIGHT OUTER JOIN,aFULL OUTER JOIN,aLARGE UP TACK,
bDOWN TACK,aLEFT AND RIGHT DOUBLE TURNSTILE,dTACK,bMULTIMAP,aLONG RIGHT TACK,bLEFT TACK,
aUP TACK WITH CIRCLE ABOVE,aLOZENGE DIVIDED BY HORIZONTAL RULE,aWHITE CONCAVE-SIDED DIAMOND,
dWITH LEFTWARDS TICK,eRIGHTWARDS TICK,bSQUARE WITH LEFTWARDS TICK,dRIGHTWARDS TICK,
aMATHEMATICAL LEFT WHITE SQUARE BRACKET,bRIGHT WHITE SQUARE BRACKET,bLEFT ANGLE BRACKET,
bRIGHT ANGLE BRACKET,bLEFT DOUBLE ANGLE BRACKET,bRIGHT DOUBLE ANGLE BRACKET,
bLEFT WHITE TORTOISE SHELL BRACKET,bRIGHT WHITE TORTOISE SHELL BRACKET,
bLEFT FLATTENED PARENTHESIS,bRIGHT FLATTENED PARENTHESIS,aUPWARDS QUADRUPLE ARROW,
aDOWNWARDS QUADRUPLE ARROW,aANTICLOCKWISE GAPPED CIRCLE ARROW,aCLOCKWISE GAPPED CIRCLE ARROW,
aRIGHT ARROW WITH CIRCLED PLUS,aLONG LEFTWARDS ARROW,bRIGHTWARDS ARROW,bLEFT RIGHT ARROW,
bLEFTWARDS DOUBLE ARROW,bRIGHTWARDS DOUBLE ARROW,bLEFT RIGHT DOUBLE ARROW,
bLEFTWARDS ARROW FROM BAR,bRIGHTWARDS ARROW FROM BAR,bLEFTWARDS DOUBLE ARROW FROM BAR,
bRIGHTWARDS DOUBLE ARROW FROM BAR,cSQUIGGLE ARROW"

/-- The names of ideographic punctuation, hiragana and katakana. -/
def kanaNames : String := "@3000,aIDEOGRAPHIC SPACE,bCOMMA,bFULL STOP,aDITTO MARK,aJAPANESE INDUSTRIAL STANDARD SYMBOL,
aIDEOGRAPHIC ITERATION MARK,bCLOSING MARK,bNUMBER ZERO,aLEFT ANGLE BRACKET,aRIGHT ANGLE BRACKET,
aLEFT DOUBLE ANGLE BRACKET,aRIGHT DOUBLE ANGLE BRACKET,aLEFT CORNER BRACKET,
aRIGHT CORNER BRACKET,aLEFT WHITE CORNER BRACKET,aRIGHT WHITE CORNER BRACKET,
aLEFT BLACK LENTICULAR BRACKET,aRIGHT BLACK LENTICULAR BRACKET,aPOSTAL MARK,aGETA MARK,
aLEFT TORTOISE SHELL BRACKET,aRIGHT TORTOISE SHELL BRACKET,aLEFT WHITE LENTICULAR BRACKET,
aRIGHT WHITE LENTICULAR BRACKET,aLEFT WHITE TORTOISE SHELL BRACKET,
aRIGHT WHITE TORTOISE SHELL BRACKET,aLEFT WHITE SQUARE BRACKET,aRIGHT WHITE SQUARE BRACKET,
aWAVE DASH,aREVERSED DOUBLE PRIME QUOTATION MARK,aDOUBLE PRIME QUOTATION MARK,
aLOW DOUBLE PRIME QUOTATION MARK,aPOSTAL MARK FACE,aHANGZHOU NUMERAL ONE,cTWO,cTHREE,cFOUR,cFIVE,
cSIX,cSEVEN,cEIGHT,cNINE,aIDEOGRAPHIC LEVEL TONE MARK,bRISING TONE MARK,bDEPARTING TONE MARK,
bENTERING TONE MARK,aHANGUL SINGLE DOT TONE MARK,bDOUBLE DOT TONE MARK,aWAVY DASH,
aVERTICAL KANA REPEAT MARK,dWITH VOICED SOUND MARK,dMARK UPPER HALF,
dWITH VOICED SOUND MARK UPPER HALF,dMARK LOWER HALF,aCIRCLED POSTAL MARK,
aIDEOGRAPHIC TELEGRAPH LINE FEED SEPARATOR SYMBOL,aHANGZHOU NUMERAL TEN,cTWENTY,cTHIRTY,
aVERTICAL IDEOGRAPHIC ITERATION MARK,aMASU MARK,aPART ALTERNATION MARK,
aIDEOGRAPHIC VARIATION INDICATOR,bHALF FILL SPACE,@3041,aHIRAGANA LETTER SMALL A,cA,cSMALL I,cI,
cSMALL U,cU,cSMALL E,cE,cSMALL O,cO,cKA,cGA,cKI,cGI,cKU,cGU,cKE,cGE,cKO,cGO,cSA,cZA,cSI,cZI,cSU,
cZU,cSE,cZE,cSO,cZO,cTA,cDA,cTI,cDI,cSMALL TU,cTU,cDU,cTE,cDE,cTO,cDO,cNA,cNI,cNU,cNE,cNO,cHA,
cBA,cPA,cHI,cBI,cPI,cHU,cBU,cPU,cHE,cBE,cPE,cHO,cBO,cPO,cMA,cMI,cMU,cME,cMO,cSMALL YA,cYA,
cSMALL YU,cYU,cSMALL YO,cYO,cRA,cRI,cRU,cRE,cRO,cSMALL WA,cWA,cWI,cWE,cWO,cN,cVU,cSMALL KA,dKE,
@3099,aCOMBINING KATAKANA-HIRAGANA VOICED SOUND MARK,cSEMI-VOICED SOUND MARK,
aKATAKANA-HIRAGANA VOICED SOUND MARK,bSEMI-VOICED SOUND MARK,aHIRAGANA ITERATION MARK,
bVOICED ITERATION MARK,bDIGRAPH YORI,aKATAKANA-HIRAGANA DOUBLE HYPHEN,aKATAKANA LETTER SMALL A,
cA,cSMALL I,cI,cSMALL U,cU,cSMALL E,cE,cSMALL O,cO,cKA,cGA,cKI,cGI,cKU,cGU,cKE,cGE,cKO,cGO,cSA,
cZA,cSI,cZI,cSU,cZU,cSE,cZE,cSO,cZO,cTA,cDA,cTI,cDI,cSMALL TU,cTU,cDU,cTE,cDE,cTO,cDO,cNA,cNI,
cNU,cNE,cNO,cHA,cBA,cPA,cHI,cBI,cPI,cHU,cBU,cPU,cHE,cBE,cPE,cHO,cBO,cPO,cMA,cMI,cMU,cME,cMO,
cSMALL YA,cYA,cSMALL YU,cYU,cSMALL YO,cYO,cRA,cRI,cRU,cRE,cRO,cSMALL WA,cWA,cWI,cWE,cWO,cN,cVU,
cSMALL KA,dKE,cVA,cVI,cVE,cVO,bMIDDLE DOT,aKATAKANA-HIRAGANA PROLONGED SOUND MARK,
aKATAKANA ITERATION MARK,bVOICED ITERATION MARK,bDIGRAPH KOTO"

/-- The names of full-width and half-width forms. -/
def widthNames : String := "@FEFF,aZERO WIDTH NO-BREAK SPACE,@FF01,aFULLWIDTH EXCLAMATION MARK,bQUOTATION MARK,bNUMBER SIGN,
bDOLLAR SIGN,bPERCENT SIGN,bAMPERSAND,bAPOSTROPHE,bLEFT PARENTHESIS,bRIGHT PARENTHESIS,bASTERISK,
bPLUS SIGN,bCOMMA,bHYPHEN-MINUS,bFULL STOP,bSOLIDUS,bDIGIT ZERO,cONE,cTWO,cTHREE,cFOUR,cFIVE,
cSIX,cSEVEN,cEIGHT,cNINE,bCOLON,bSEMICOLON,bLESS-THAN SIGN,bEQUALS SIGN,bGREATER-THAN SIGN,
bQUESTION MARK,bCOMMERCIAL AT,bLATIN CAPITAL LETTER A,eB,eC,eD,eE,eF,eG,eH,eI,eJ,eK,eL,eM,eN,eO,
eP,eQ,eR,eS,eT,eU,eV,eW,eX,eY,eZ,bLEFT SQUARE BRACKET,bREVERSE SOLIDUS,bRIGHT SQUARE BRACKET,
bCIRCUMFLEX ACCENT,bLOW LINE,bGRAVE ACCENT,bLATIN SMALL LETTER A,eB,eC,eD,eE,eF,eG,eH,eI,eJ,eK,
eL,eM,eN,eO,eP,eQ,eR,eS,eT,eU,eV,eW,eX,eY,eZ,bLEFT CURLY BRACKET,bVERTICAL LINE,
bRIGHT CURLY BRACKET,bTILDE,bLEFT WHITE PARENTHESIS,bRIGHT WHITE PARENTHESIS,
aHALFWIDTH IDEOGRAPHIC FULL STOP,bLEFT CORNER BRACKET,bRIGHT CORNER BRACKET,bIDEOGRAPHIC COMMA,
bKATAKANA MIDDLE DOT,cLETTER WO,dSMALL A,eI,eU,eE,eO,eYA,eYU,eYO,eTU,
bKATAKANA-HIRAGANA PROLONGED SOUND MARK,bKATAKANA LETTER A,dI,dU,dE,dO,dKA,dKI,dKU,dKE,dKO,dSA,
dSI,dSU,dSE,dSO,dTA,dTI,dTU,dTE,dTO,dNA,dNI,dNU,dNE,dNO,dHA,dHI,dHU,dHE,dHO,dMA,dMI,dMU,dME,dMO,
dYA,dYU,dYO,dRA,dRI,dRU,dRE,dRO,dWA,dN,cVOICED SOUND MARK,cSEMI-VOICED SOUND MARK,bHANGUL FILLER,
cLETTER KIYEOK,dSSANGKIYEOK,dKIYEOK-SIOS,dNIEUN,dNIEUN-CIEUC,dNIEUN-HIEUH,dTIKEUT,dSSANGTIKEUT,
dRIEUL,dRIEUL-KIYEOK,dRIEUL-MIEUM,dRIEUL-PIEUP,dRIEUL-SIOS,dRIEUL-THIEUTH,dRIEUL-PHIEUPH,
dRIEUL-HIEUH,dMIEUM,dPIEUP,dSSANGPIEUP,dPIEUP-SIOS,dSIOS,dSSANGSIOS,dIEUNG,dCIEUC,dSSANGCIEUC,
dCHIEUCH,dKHIEUKH,dTHIEUTH,dPHIEUPH,dHIEUH,@FFC2,dA,dAE,dYA,dYAE,dEO,dE,@FFCA,dYEO,dYE,dO,dWA,
dWAE,dOE,@FFD2,dYO,dU,dWEO,dWE,dWI,dYU,@FFDA,dEU,dYI,dI,@FFE0,aFULLWIDTH CENT SIGN,bPOUND SIGN,
bNOT SIGN,bMACRON,bBROKEN BAR,bYEN SIGN,bWON SIGN,@FFE8,aHALFWIDTH FORMS LIGHT VERTICAL,
bLEFTWARDS ARROW,bUPWARDS ARROW,bRIGHTWARDS ARROW,bDOWNWARDS ARROW,bBLACK SQUARE,bWHITE CIRCLE,
@FFF9,aINTERLINEAR ANNOTATION ANCHOR,cSEPARATOR,cTERMINATOR,aOBJECT REPLACEMENT CHARACTER,
aREPLACEMENT CHARACTER"

/-- The names of pictographs and emoticons. -/
def pictureNames : String := "@1F300,aCYCLONE,aFOGGY,aCLOSED UMBRELLA,aNIGHT WITH STARS,aSUNRISE OVER MOUNTAINS,aSUNRISE,
aCITYSCAPE AT DUSK,aSUNSET OVER BUILDINGS,aRAINBOW,aBRIDGE AT NIGHT,aWATER WAVE,aVOLCANO,
aMILKY WAY,aEARTH GLOBE EUROPE-AFRICA,cAMERICAS,cASIA-AUSTRALIA,aGLOBE WITH MERIDIANS,
aNEW MOON SYMBOL,aWAXING CRESCENT MOON SYMBOL,aFIRST QUARTER MOON SYMBOL,
aWAXING GIBBOUS MOON SYMBOL,aFULL MOON SYMBOL,aWANING GIBBOUS MOON SYMBOL,
aLAST QUARTER MOON SYMBOL,aWANING CRESCENT MOON SYMBOL,aCRESCENT MOON,aNEW MOON WITH FACE,
aFIRST QUARTER MOON WITH FACE,aLAST QUARTER MOON WITH FACE,aFULL MOON WITH FACE,aSUN WITH FACE,
aGLOWING STAR,aSHOOTING STAR,aTHERMOMETER,aBLACK DROPLET,aWHITE SUN,cWITH SMALL CLOUD,
cBEHIND CLOUD,eWITH RAIN,aCLOUD WITH RAIN,cSNOW,cLIGHTNING,cTORNADO,aFOG,aWIND BLOWING FACE,
aHOT DOG,aTACO,aBURRITO,aCHESTNUT,aSEEDLING,aEVERGREEN TREE,aDECIDUOUS TREE,aPALM TREE,aCACTUS,
aHOT PEPPER,aTULIP,aCHERRY BLOSSOM,aROSE,aHIBISCUS,aSUNFLOWER,aBLOSSOM,aEAR OF MAIZE,cRICE,aHERB,
aFOUR LEAF CLOVER,aMAPLE LEAF,aFALLEN LEAF,aLEAF FLUTTERING IN WIND,aMUSHROOM,aTOMATO,aAUBERGINE,
aGRAPES,aMELON,aWATERMELON,aTANGERINE,aLEMON,aBANANA,aPINEAPPLE,aRED APPLE,aGREEN APPLE,aPEAR,
aPEACH,aCHERRIES,aSTRAWBERRY,aHAMBURGER,aSLICE OF PIZZA,aMEAT ON BONE,aPOULTRY LEG,aRICE CRACKER,
bBALL,aCOOKED RICE,aCURRY AND RICE,aSTEAMING BOWL,aSPAGHETTI,aBREAD,aFRENCH FRIES,
aROASTED SWEET POTATO,aDANGO,aODEN,aSUSHI,aFRIED SHRIMP,aFISH CAKE WITH SWIRL DESIGN,
aSOFT ICE CREAM,aSHAVED ICE,aICE CREAM,aDOUGHNUT,aCOOKIE,aCHOCOLATE BAR,aCANDY,aLOLLIPOP,
aCUSTARD,aHONEY POT,aSHORTCAKE,aBENTO BOX,aPOT OF FOOD,aCOOKING,aFORK AND KNIFE,
aTEACUP WITHOUT HANDLE,aSAKE BOTTLE AND CUP,aWINE GLASS,aCOCKTAIL GLASS,aTROPICAL DRINK,
aBEER MUG,aCLINKING BEER MUGS,aBABY BOTTLE,aFORK AND KNIFE WITH PLATE,aBOTTLE WITH POPPING CORK,
aPOPCORN,aRIBBON,aWRAPPED PRESENT,aBIRTHDAY CAKE,aJACK-O-LANTERN,aCHRISTMAS TREE,
aFATHER CHRISTMAS,aFIREWORKS,aFIREWORK SPARKLER,aBALLOON,aPARTY POPPER,aCONFETTI BALL,
aTANABATA TREE,aCROSSED FLAGS,aPINE DECORATION,aJAPANESE DOLLS,aCARP STREAMER,aWIND CHIME,
aMOON VIEWING CEREMONY,aSCHOOL SATCHEL,aGRADUATION CAP,aHEART WITH TIP ON THE LEFT,
aBOUQUET OF FLOWERS,aMILITARY MEDAL,aREMINDER RIBBON,aMUSICAL KEYBOARD WITH JACKS,
aSTUDIO MICROPHONE,aLEVEL SLIDER,aCONTROL KNOBS,aBEAMED ASCENDING MUSICAL NOTES,
bDESCENDING MUSICAL NOTES,aFILM FRAMES,aADMISSION TICKETS,aCAROUSEL HORSE,aFERRIS WHEEL,
aROLLER COASTER,aFISHING POLE AND FISH,aMICROPHONE,aMOVIE CAMERA,aCINEMA,aHEADPHONE,
aARTIST PALETTE,aTOP HAT,aCIRCUS TENT,aTICKET,aCLAPPER BOARD,aPERFORMING ARTS,aVIDEO GAME,
aDIRECT HIT,aSLOT MACHINE,aBILLIARDS,aGAME DIE,aBOWLING,aFLOWER PLAYING CARDS,aMUSICAL NOTE,
aMULTIPLE MUSICAL NOTES,aSAXOPHONE,aGUITAR,aMUSICAL KEYBOARD,aTRUMPET,aVIOLIN,aMUSICAL SCORE,
aRUNNING SHIRT WITH SASH,aTENNIS RACQUET AND BALL,aSKI AND SKI BOOT,aBASKETBALL AND HOOP,
aCHEQUERED FLAG,aSNOWBOARDER,aRUNNER,aSURFER,aSPORTS MEDAL,aTROPHY,aHORSE RACING,
aAMERICAN FOOTBALL,aRUGBY FOOTBALL,aSWIMMER,aWEIGHT LIFTER,aGOLFER,aRACING MOTORCYCLE,bCAR,
aCRICKET BAT AND BALL,aVOLLEYBALL,aFIELD HOCKEY STICK AND BALL,aICE HOCKEY STICK AND PUCK,
aTABLE TENNIS PADDLE AND BALL,aSNOW CAPPED MOUNTAIN,aCAMPING,aBEACH WITH UMBRELLA,
aBUILDING CONSTRUCTION,aHOUSE BUILDINGS,aCITYSCAPE,aDERELICT HOUSE BUILDING,aCLASSICAL BUILDING,
aDESERT,bISLAND,aNATIONAL PARK,aSTADIUM,aHOUSE BUILDING,bWITH GARDEN,aOFFICE BUILDING,
aJAPANESE POST OFFICE,aEUROPEAN POST OFFICE,aHOSPITAL,aBANK,aAUTOMATED TELLER MACHINE,aHOTEL,
aLOVE HOTEL,aCONVENIENCE STORE,aSCHOOL,aDEPARTMENT STORE,aFACTORY,aIZAKAYA LANTERN,
aJAPANESE CASTLE,aEUROPEAN CASTLE,aWHITE PENNANT,aBLACK PENNANT,aWAVING WHITE FLAG,bBLACK FLAG,
aROSETTE,aBLACK ROSETTE,aLABEL,aBADMINTON RACQUET AND SHUTTLECOCK,aBOW AND ARROW,aAMPHORA,
aEMOJI MODIFIER FITZPATRICK TYPE-1-2,dTYPE-3,dTYPE-4,dTYPE-5,dTYPE-6,aRAT,aMOUSE,aOX,
aWATER BUFFALO,aCOW,aTIGER,aLEOPARD,aRABBIT,aCAT,aDRAGON,aCROCODILE,aWHALE,aSNAIL,aSNAKE,aHORSE,
aRAM,aGOAT,aSHEEP,aMONKEY,aROOSTER,aCHICKEN,aDOG,aPIG,aBOAR,aELEPHANT,aOCTOPUS,aSPIRAL SHELL,
aBUG,aANT,aHONEYBEE,aLADY BEETLE,aFISH,aTROPICAL FISH,aBLOWFISH,aTURTLE,aHATCHING CHICK,
aBABY CHICK,aFRONT-FACING BABY CHICK,aBIRD,aPENGUIN,aKOALA,aPOODLE,aDROMEDARY CAMEL,
aBACTRIAN CAMEL,aDOLPHIN,aMOUSE FACE,aCOW FACE,aTIGER FACE,aRABBIT FACE,aCAT FACE,aDRAGON FACE,
aSPOUTING WHALE,aHORSE FACE,aMONKEY FACE,aDOG FACE,aPIG FACE,aFROG FACE,aHAMSTER FACE,aWOLF FACE,
aBEAR FACE,aPANDA FACE,aPIG NOSE,aPAW PRINTS,aCHIPMUNK,aEYES,aEYE,aEAR,aNOSE,aMOUTH,aTONGUE,
aWHITE UP POINTING BACKHAND INDEX,bDOWN POINTING BACKHAND INDEX,bLEFT POINTING BACKHAND INDEX,
bRIGHT POINTING BACKHAND INDEX,aFISTED HAND SIGN,aWAVING HAND SIGN,aOK HAND SIGN,aTHUMBS UP SIGN,
bDOWN SIGN,aCLAPPING HANDS SIGN,aOPEN HANDS SIGN,aCROWN,aWOMANS HAT,aEYEGLASSES,aNECKTIE,
aT-SHIRT,aJEANS,aDRESS,aKIMONO,aBIKINI,aWOMANS CLOTHES,aPURSE,aHANDBAG,aPOUCH,aMANS SHOE,
aATHLETIC SHOE,aHIGH-HEELED SHOE,aWOMANS SANDAL,bBOOTS,aFOOTPRINTS,aBUST IN SILHOUETTE,
aBUSTS IN SILHOUETTE,aBOY,aGIRL,aMAN,aWOMAN,aFAMILY,aMAN AND WOMAN HOLDING HANDS,
aTWO MEN HOLDING HANDS,bWOMEN HOLDING HANDS,aPOLICE OFFICER,aWOMAN WITH BUNNY EARS,
aBRIDE WITH VEIL,aPERSON WITH BLOND HAIR,aMAN WITH GUA PI MAO,cTURBAN,aOLDER MAN,bWOMAN,aBABY,
aCONSTRUCTION WORKER,aPRINCESS,aJAPANESE OGRE,bGOBLIN,aGHOST,aBABY ANGEL,aEXTRATERRESTRIAL ALIEN,
aALIEN MONSTER,aIMP,aSKULL,aINFORMATION DESK PERSON,aGUARDSMAN,aDANCER,aLIPSTICK,aNAIL POLISH,
aFACE MASSAGE,aHAIRCUT,aBARBER POLE,aSYRINGE,aPILL,aKISS MARK,aLOVE LETTER,aRING,aGEM STONE,
aKISS,aBOUQUET,aCOUPLE WITH HEART,aWEDDING,aBEATING HEART,aBROKEN HEART,aTWO HEARTS,
aSPARKLING HEART,aGROWING HEART,aHEART WITH ARROW,aBLUE HEART,aGREEN HEART,aYELLOW HEART,
aPURPLE HEART,aHEART WITH RIBBON,aREVOLVING HEARTS,aHEART DECORATION,
aDIAMOND SHAPE WITH A DOT INSIDE,aELECTRIC LIGHT BULB,aANGER SYMBOL,aBOMB,aSLEEPING SYMBOL,
aCOLLISION SYMBOL,aSPLASHING SWEAT SYMBOL,aDROPLET,aDASH SYMBOL,aPILE OF POO,aFLEXED BICEPS,
aDIZZY SYMBOL,aSPEECH BALLOON,aTHOUGHT BALLOON,aWHITE FLOWER,aHUNDRED POINTS SYMBOL,aMONEY BAG,
aCURRENCY EXCHANGE,aHEAVY DOLLAR SIGN,aCREDIT CARD,aBANKNOTE WITH YEN SIGN,cDOLLAR SIGN,
cEURO SIGN,cPOUND SIGN,aMONEY WITH WINGS,aCHART WITH UPWARDS TREND AND YEN SIGN,aSEAT,
aPERSONAL COMPUTER,aBRIEFCASE,aMINIDISC,aFLOPPY DISK,aOPTICAL DISC,aDVD,aFILE FOLDER,
aOPEN FILE FOLDER,aPAGE WITH CURL,bFACING UP,aCALENDAR,aTEAR-OFF CALENDAR,aCARD INDEX,
aCHART WITH UPWARDS TREND,cDOWNWARDS TREND,aBAR CHART,aCLIPBOARD,aPUSHPIN,aROUND PUSHPIN,
aPAPERCLIP,aSTRAIGHT RULER,aTRIANGULAR RULER,aBOOKMARK TABS,aLEDGER,aNOTEBOOK,
bWITH DECORATIVE COVER,aCLOSED BOOK,aOPEN BOOK,aGREEN BOOK,aBLUE BOOK,aORANGE BOOK,aBOOKS,
aNAME BADGE,aSCROLL,aMEMO,aTELEPHONE RECEIVER,aPAGER,aFAX MACHINE,aSATELLITE ANTENNA,
aPUBLIC ADDRESS LOUDSPEAKER,aCHEERING MEGAPHONE,aOUTBOX TRAY,aINBOX TRAY,aPACKAGE,aE-MAIL SYMBOL,
aINCOMING ENVELOPE,aENVELOPE WITH DOWNWARDS ARROW ABOVE,aCLOSED MAILBOX WITH LOWERED FLAG,
dRAISED FLAG,aOPEN MAILBOX WITH RAISED FLAG,dLOWERED FLAG,aPOSTBOX,aPOSTAL HORN,aNEWSPAPER,
aMOBILE PHONE,cWITH RIGHTWARDS ARROW AT LEFT,aVIBRATION MODE,aMOBILE PHONE OFF,aNO MOBILE PHONES,
aANTENNA WITH BARS,aCAMERA,bWITH FLASH,aVIDEO CAMERA,aTELEVISION,aRADIO,aVIDEOCASSETTE,
aFILM PROJECTOR,aPORTABLE STEREO,aPRAYER BEADS,aTWISTED RIGHTWARDS ARROWS,
aCLOCKWISE RIGHTWARDS AND LEFTWARDS OPEN CIRCLE ARROWS,hWITH CIRCLED ONE OVERLAY,
bDOWNWARDS AND UPWARDS OPEN CIRCLE ARROWS,
aANTICLOCKWISE DOWNWARDS AND UPWARDS OPEN CIRCLE ARROWS,aLOW BRIGHTNESS SYMBOL,
aHIGH BRIGHTNESS SYMBOL,aSPEAKER WITH CANCELLATION STROKE,aSPEAKER,bWITH ONE SOUND WAVE,
cTHREE SOUND WAVES,aBATTERY,aELECTRIC PLUG,aLEFT-POINTING MAGNIFYING GLASS,
aRIGHT-POINTING MAGNIFYING GLASS,aLOCK WITH INK PEN,aCLOSED LOCK WITH KEY,aKEY,aLOCK,aOPEN LOCK,
aBELL,bWITH CANCELLATION STROKE,aBOOKMARK,aLINK SYMBOL,aRADIO BUTTON,
aBACK WITH LEFTWARDS ARROW ABOVE,aEND WITH LEFTWARDS ARROW ABOVE,
aON WITH EXCLAMATION MARK WITH LEFT RIGHT ARROW ABOVE,aSOON WITH RIGHTWARDS ARROW ABOVE,
aTOP WITH UPWARDS ARROW ABOVE,aNO ONE UNDER EIGHTEEN SYMBOL,aKEYCAP TEN,
aINPUT SYMBOL FOR LATIN CAPITAL LETTERS,eSMALL LETTERS,dNUMBERS,dSYMBOLS,dLATIN LETTERS,aFIRE,
aELECTRIC TORCH,aWRENCH,aHAMMER,aNUT AND BOLT,aHOCHO,aPISTOL,aMICROSCOPE,aTELESCOPE,
aCRYSTAL BALL,aSIX POINTED STAR WITH MIDDLE DOT,aJAPANESE SYMBOL FOR BEGINNER,aTRIDENT EMBLEM,
aBLACK SQUARE BUTTON,aWHITE SQUARE BUTTON,aLARGE RED CIRCLE,bBLUE CIRCLE,bORANGE DIAMOND,
bBLUE DIAMOND,aSMALL ORANGE DIAMOND,bBLUE DIAMOND,aUP-POINTING RED TRIANGLE,
aDOWN-POINTING RED TRIANGLE,aUP-POINTING SMALL RED TRIANGLE,aDOWN-POINTING SMALL RED TRIANGLE,
aLOWER RIGHT SHADOWED WHITE CIRCLE,aUPPER RIGHT SHADOWED WHITE CIRCLE,aCIRCLED CROSS POMMEE,
aCROSS POMMEE WITH HALF-CIRCLE BELOW,bPOMMEE,aNOTCHED LEFT SEMICIRCLE WITH THREE DOTS,
bRIGHT SEMICIRCLE WITH THREE DOTS,aSYMBOL FOR MARKS CHAPTER,aWHITE LATIN CROSS,
aHEAVY LATIN CROSS,aCELTIC CROSS,aOM SYMBOL,aDOVE OF PEACE,aKAABA,aMOSQUE,aSYNAGOGUE,
aMENORAH WITH NINE BRANCHES,aBOWL OF HYGIEIA,aCLOCK FACE ONE OCLOCK,cTWO OCLOCK,cTHREE OCLOCK,
cFOUR OCLOCK,cFIVE OCLOCK,cSIX OCLOCK,cSEVEN OCLOCK,cEIGHT OCLOCK,cNINE OCLOCK,cTEN OCLOCK,
cELEVEN OCLOCK,cTWELVE OCLOCK,cONE-THIRTY,cTWO-THIRTY,cTHREE-THIRTY,cFOUR-THIRTY,cFIVE-THIRTY,
cSIX-THIRTY,cSEVEN-THIRTY,cEIGHT-THIRTY,cNINE-THIRTY,cTEN-THIRTY,cELEVEN-THIRTY,cTWELVE-THIRTY,
aRIGHT SPEAKER,cWITH ONE SOUND WAVE,dTHREE SOUND WAVES,aBULLHORN,bWITH SOUND WAVES,aRINGING BELL,
aBOOK,aCANDLE,aMANTELPIECE CLOCK,aBLACK SKULL AND CROSSBONES,aNO PIRACY,aHOLE,
aMAN IN BUSINESS SUIT LEVITATING,aSLEUTH OR SPY,aDARK SUNGLASSES,aSPIDER,bWEB,aJOYSTICK,
aMAN DANCING,aLEFT HAND TELEPHONE RECEIVER,aTELEPHONE RECEIVER WITH PAGE,
aRIGHT HAND TELEPHONE RECEIVER,aWHITE TOUCHTONE TELEPHONE,aBLACK TOUCHTONE TELEPHONE,
aTELEPHONE ON TOP OF MODEM,aCLAMSHELL MOBILE PHONE,aBACK OF ENVELOPE,aSTAMPED ENVELOPE,
aENVELOPE WITH LIGHTNING,aFLYING ENVELOPE,aPEN OVER STAMPED ENVELOPE,aLINKED PAPERCLIPS,
aBLACK PUSHPIN,aLOWER LEFT PENCIL,cBALLPOINT PEN,cFOUNTAIN PEN,cPAINTBRUSH,cCRAYON,
aLEFT WRITING HAND,aTURNED OK HAND SIGN,aRAISED HAND WITH FINGERS SPLAYED,
aREVERSED RAISED HAND WITH FINGERS SPLAYED,bTHUMBS UP SIGN,cDOWN SIGN,bVICTORY HAND,
bHAND WITH MIDDLE FINGER EXTENDED,aRAISED HAND WITH PART BETWEEN MIDDLE AND RING FINGERS,
aWHITE DOWN POINTING LEFT HAND INDEX,aSIDEWAYS WHITE LEFT POINTING INDEX,cRIGHT POINTING INDEX,
bBLACK LEFT POINTING INDEX,cRIGHT POINTING INDEX,aBLACK LEFT POINTING BACKHAND INDEX,
bRIGHT POINTING BACKHAND INDEX,aSIDEWAYS WHITE UP POINTING INDEX,cDOWN POINTING INDEX,
bBLACK UP POINTING INDEX,cDOWN POINTING INDEX,aBLACK UP POINTING BACKHAND INDEX,
bDOWN POINTING BACKHAND INDEX,bHEART,aDESKTOP COMPUTER,aKEYBOARD AND MOUSE,
aTHREE NETWORKED COMPUTERS,aPRINTER,aPOCKET CALCULATOR,aBLACK HARD SHELL FLOPPY DISK,
aWHITE HARD SHELL FLOPPY DISK,aSOFT SHELL FLOPPY DISK,aTAPE CARTRIDGE,aWIRED KEYBOARD,
aONE BUTTON MOUSE,aTWO BUTTON MOUSE,aTHREE BUTTON MOUSE,aTRACKBALL,aOLD PERSONAL COMPUTER,
aHARD DISK,aSCREEN,aPRINTER ICON,aFAX ICON,aOPTICAL DISC ICON,aDOCUMENT WITH TEXT,dAND PICTURE,
cPICTURE,aFRAME WITH PICTURE,cTILES,cAN X,aBLACK FOLDER,aFOLDER,aOPEN FOLDER,
aCARD INDEX DIVIDERS,bFILE BOX,aFILE CABINET,aEMPTY NOTE,cPAGE,cPAD,aNOTE,bPAGE,bPAD,
aEMPTY DOCUMENT,bPAGE,bPAGES,aDOCUMENT,aPAGE,aPAGES,aWASTEBASKET,aSPIRAL NOTE PAD,bCALENDAR PAD,
aDESKTOP WINDOW,aMINIMIZE,aMAXIMIZE,aOVERLAP,aCLOCKWISE RIGHT AND LEFT SEMICIRCLE ARROWS,
aCANCELLATION X,aINCREASE FONT SIZE SYMBOL,aDECREASE FONT SIZE SYMBOL,aCOMPRESSION,aOLD KEY,
aROLLED-UP NEWSPAPER,aPAGE WITH CIRCLED TEXT,aSTOCK CHART,aDAGGER KNIFE,aLIPS,
aSPEAKING HEAD IN SILHOUETTE,aTHREE RAYS ABOVE,cBELOW,cLEFT,cRIGHT,aLEFT SPEECH BUBBLE,
aRIGHT SPEECH BUBBLE,aTWO SPEECH BUBBLES,aTHREE SPEECH BUBBLES,aLEFT THOUGHT BUBBLE,
aRIGHT THOUGHT BUBBLE,aLEFT ANGER BUBBLE,aRIGHT ANGER BUBBLE,aMOOD BUBBLE,aLIGHTNING MOOD BUBBLE,
bMOOD,aBALLOT BOX WITH BALLOT,bSCRIPT X,bBOX WITH SCRIPT X,bBOLD SCRIPT X,
bBOX WITH BOLD SCRIPT X,aLIGHT CHECK MARK,aBALLOT BOX WITH BOLD CHECK,aWORLD MAP,aMOUNT FUJI,
aTOKYO TOWER,aSTATUE OF LIBERTY,aSILHOUETTE OF JAPAN,aMOYAI,aGRINNING FACE,cWITH SMILING EYES,
aFACE WITH TEARS OF JOY,aSMILING FACE WITH OPEN MOUTH,fAND SMILING EYES,gCOLD SWEAT,
gTIGHTLY-CLOSED EYES,dHALO,dHORNS,aWINKING FACE,aSMILING FACE WITH SMILING EYES,
aFACE SAVOURING DELICIOUS FOOD,aRELIEVED FACE,aSMILING FACE WITH HEART-SHAPED EYES,dSUNGLASSES,
aSMIRKING FACE,aNEUTRAL FACE,aEXPRESSIONLESS FACE,aUNAMUSED FACE,aFACE WITH COLD SWEAT,
aPENSIVE FACE,aCONFUSED FACE,aCONFOUNDED FACE,aKISSING FACE,aFACE THROWING A KISS,
aKISSING FACE WITH SMILING EYES,dCLOSED EYES,aFACE WITH STUCK-OUT TONGUE,eAND WINKING EYE,
fTIGHTLY-CLOSED EYES,aDISAPPOINTED FACE,aWORRIED FACE,aANGRY FACE,aPOUTING FACE,aCRYING FACE,
aPERSEVERING FACE,aFACE WITH LOOK OF TRIUMPH,aDISAPPOINTED BUT RELIEVED FACE,
aFROWNING FACE WITH OPEN MOUTH,aANGUISHED FACE,aFEARFUL FACE,aWEARY FACE,aSLEEPY FACE,
aTIRED FACE,aGRIMACING FACE,aLOUDLY CRYING FACE,aFACE WITH OPEN MOUTH,aHUSHED FACE,
aFACE WITH OPEN MOUTH AND COLD SWEAT,bSCREAMING IN FEAR,aASTONISHED FACE,aFLUSHED FACE,
aSLEEPING FACE,aDIZZY FACE,aFACE WITHOUT MOUTH,bWITH MEDICAL MASK,
aGRINNING CAT FACE WITH SMILING EYES,aCAT FACE WITH TEARS OF JOY,
aSMILING CAT FACE WITH OPEN MOUTH,eHEART-SHAPED EYES,aCAT FACE WITH WRY SMILE,
aKISSING CAT FACE WITH CLOSED EYES,aPOUTING CAT FACE,aCRYING CAT FACE,aWEARY CAT FACE,
aSLIGHTLY FROWNING FACE,bSMILING FACE,aUPSIDE-DOWN FACE,aFACE WITH ROLLING EYES,cNO GOOD GESTURE,
cOK GESTURE,aPERSON BOWING DEEPLY,aSEE-NO-EVIL MONKEY,aHEAR-NO-EVIL MONKEY,aSPEAK-NO-EVIL MONKEY,
aHAPPY PERSON RAISING ONE HAND,aPERSON RAISING BOTH HANDS IN CELEBRATION,bFROWNING,
bWITH POUTING FACE,cFOLDED HANDS,aNORTH WEST POINTING LEAF,aSOUTH WEST POINTING LEAF,
aNORTH EAST POINTING LEAF,aSOUTH EAST POINTING LEAF,aTURNED NORTH WEST POINTING LEAF,
bSOUTH WEST POINTING LEAF,bNORTH EAST POINTING LEAF,bSOUTH EAST POINTING LEAF,
aNORTH WEST POINTING VINE LEAF,aSOUTH WEST POINTING VINE LEAF,aNORTH EAST POINTING VINE LEAF,
aSOUTH EAST POINTING VINE LEAF,aHEAVY NORTH WEST POINTING VINE LEAF,
bSOUTH WEST POINTING VINE LEAF,bNORTH EAST POINTING VINE LEAF,bSOUTH EAST POINTING VINE LEAF,
aNORTH WEST POINTING BUD,aSOUTH WEST POINTING BUD,aNORTH EAST POINTING BUD,
aSOUTH EAST POINTING BUD,aHEAVY NORTH WEST POINTING BUD,bSOUTH WEST POINTING BUD,
bNORTH EAST POINTING BUD,bSOUTH EAST POINTING BUD,aHOLLOW QUILT SQUARE ORNAMENT,eIN BLACK SQUARE,
aSOLID QUILT SQUARE ORNAMENT,eIN BLACK SQUARE,aLEFTWARDS ROCKET,aUPWARDS ROCKET,
aRIGHTWARDS ROCKET,aDOWNWARDS ROCKET,aSCRIPT LIGATURE ET ORNAMENT,
aHEAVY SCRIPT LIGATURE ET ORNAMENT,aLIGATURE OPEN ET ORNAMENT,aHEAVY LIGATURE OPEN ET ORNAMENT,
bAMPERSAND ORNAMENT,aSWASH AMPERSAND ORNAMENT,
aSANS-SERIF HEAVY DOUBLE TURNED COMMA QUOTATION MARK ORNAMENT,dCOMMA QUOTATION MARK ORNAMENT,
cLOW DOUBLE COMMA QUOTATION MARK ORNAMENT,aHEAVY INTERROBANG ORNAMENT,
aSANS-SERIF INTERROBANG ORNAMENT,aHEAVY SANS-SERIF INTERROBANG ORNAMENT,aVERY HEAVY SOLIDUS,
cREVERSE SOLIDUS,aCHECKER BOARD,aREVERSE CHECKER BOARD,aROCKET,aHELICOPTER,aSTEAM LOCOMOTIVE,
aRAILWAY CAR,aHIGH-SPEED TRAIN,cWITH BULLET NOSE,aTRAIN,aMETRO,aLIGHT RAIL,aSTATION,aTRAM,bCAR,
aBUS,aONCOMING BUS,aTROLLEYBUS,aBUS STOP,aMINIBUS,aAMBULANCE,aFIRE ENGINE,aPOLICE CAR,
aONCOMING POLICE CAR,aTAXI,aONCOMING TAXI,aAUTOMOBILE,aONCOMING AUTOMOBILE,aRECREATIONAL VEHICLE,
aDELIVERY TRUCK,aARTICULATED LORRY,aTRACTOR,aMONORAIL,aMOUNTAIN RAILWAY,aSUSPENSION RAILWAY,
aMOUNTAIN CABLEWAY,aAERIAL TRAMWAY,aSHIP,aROWBOAT,aSPEEDBOAT,aHORIZONTAL TRAFFIC LIGHT,
aVERTICAL TRAFFIC LIGHT,aCONSTRUCTION SIGN,aPOLICE CARS REVOLVING LIGHT,aTRIANGULAR FLAG ON POST,
aDOOR,aNO ENTRY SIGN,aSMOKING SYMBOL,aNO SMOKING SYMBOL,aPUT LITTER IN ITS PLACE SYMBOL,
aDO NOT LITTER SYMBOL,aPOTABLE WATER SYMBOL,aNON-POTABLE WATER SYMBOL,aBICYCLE,aNO BICYCLES,
aBICYCLIST,aMOUNTAIN BICYCLIST,aPEDESTRIAN,aNO PEDESTRIANS,aCHILDREN CROSSING,aMENS SYMBOL,
aWOMENS SYMBOL,aRESTROOM,aBABY SYMBOL,aTOILET,aWATER CLOSET,aSHOWER,aBATH,aBATHTUB,
aPASSPORT CONTROL,aCUSTOMS,aBAGGAGE CLAIM,aLEFT LUGGAGE,aTRIANGLE WITH ROUNDED CORNERS,
aPROHIBITED SIGN,aCIRCLED INFORMATION SOURCE,aBOYS SYMBOL,aGIRLS SYMBOL,aCOUCH AND LAMP,
aSLEEPING ACCOMMODATION,aSHOPPING BAGS,aBELLHOP BELL,aBED,aPLACE OF WORSHIP,aOCTAGONAL SIGN,
aSHOPPING TROLLEY,aSTUPA,aPAGODA,aHINDU TEMPLE,aHUT,aELEVATOR,@1F6DD,aPLAYGROUND SLIDE,aWHEEL,
aRING BUOY,aHAMMER AND WRENCH,aSHIELD,aOIL DRUM,aMOTORWAY,aRAILWAY TRACK,aMOTOR BOAT,
aUP-POINTING MILITARY AIRPLANE,bAIRPLANE,bSMALL AIRPLANE,aSMALL AIRPLANE,
aNORTHEAST-POINTING AIRPLANE,aAIRPLANE DEPARTURE,bARRIVING,@1F6F0,aSATELLITE,
aONCOMING FIRE ENGINE,aDIESEL LOCOMOTIVE,aPASSENGER SHIP,aSCOOTER,aMOTOR SCOOTER,aCANOE,aSLED,
aFLYING SAUCER,aSKATEBOARD,aAUTO RICKSHAW,aPICKUP TRUCK,aROLLER SKATE"

/-- Further names of controls and of format characters. -/
def aliases : List (String × Nat) := [
  ("NULL", 0x0), ("NUL", 0x0), ("START OF HEADING", 0x1), ("SOH", 0x1), ("START OF TEXT", 0x2),
  ("STX", 0x2), ("END OF TEXT", 0x3), ("ETX", 0x3), ("END OF TRANSMISSION", 0x4), ("EOT", 0x4),
  ("ENQUIRY", 0x5), ("ENQ", 0x5), ("ACKNOWLEDGE", 0x6), ("ACK", 0x6), ("ALERT", 0x7),
  ("BEL", 0x7), ("BACKSPACE", 0x8), ("BS", 0x8), ("CHARACTER TABULATION", 0x9),
  ("HORIZONTAL TABULATION", 0x9), ("HT", 0x9), ("TAB", 0x9), ("LINE FEED", 0xA),
  ("NEW LINE", 0xA), ("END OF LINE", 0xA), ("LF", 0xA), ("NL", 0xA), ("EOL", 0xA),
  ("LINE TABULATION", 0xB), ("VERTICAL TABULATION", 0xB), ("VT", 0xB), ("FORM FEED", 0xC),
  ("FF", 0xC), ("CARRIAGE RETURN", 0xD), ("CR", 0xD), ("SHIFT OUT", 0xE),
  ("LOCKING-SHIFT ONE", 0xE), ("SO", 0xE), ("SHIFT IN", 0xF), ("LOCKING-SHIFT ZERO", 0xF),
  ("SI", 0xF), ("DATA LINK ESCAPE", 0x10), ("DLE", 0x10), ("DEVICE CONTROL ONE", 0x11),
  ("DC1", 0x11), ("DEVICE CONTROL TWO", 0x12), ("DC2", 0x12), ("DEVICE CONTROL THREE", 0x13),
  ("DC3", 0x13), ("DEVICE CONTROL FOUR", 0x14), ("DC4", 0x14), ("NEGATIVE ACKNOWLEDGE", 0x15),
  ("NAK", 0x15), ("SYNCHRONOUS IDLE", 0x16), ("SYN", 0x16), ("END OF TRANSMISSION BLOCK", 0x17),
  ("ETB", 0x17), ("CANCEL", 0x18), ("CAN", 0x18), ("END OF MEDIUM", 0x19), ("EOM", 0x19),
  ("SUBSTITUTE", 0x1A), ("SUB", 0x1A), ("ESCAPE", 0x1B), ("ESC", 0x1B),
  ("INFORMATION SEPARATOR FOUR", 0x1C), ("FILE SEPARATOR", 0x1C), ("FS", 0x1C),
  ("INFORMATION SEPARATOR THREE", 0x1D), ("GROUP SEPARATOR", 0x1D), ("GS", 0x1D),
  ("INFORMATION SEPARATOR TWO", 0x1E), ("RECORD SEPARATOR", 0x1E), ("RS", 0x1E),
  ("INFORMATION SEPARATOR ONE", 0x1F), ("UNIT SEPARATOR", 0x1F), ("US", 0x1F), ("SP", 0x20),
  ("DELETE", 0x7F), ("DEL", 0x7F), ("PADDING CHARACTER", 0x80), ("PAD", 0x80),
  ("HIGH OCTET PRESET", 0x81), ("HOP", 0x81), ("BREAK PERMITTED HERE", 0x82), ("BPH", 0x82),
  ("NO BREAK HERE", 0x83), ("NBH", 0x83), ("INDEX", 0x84), ("IND", 0x84), ("NEXT LINE", 0x85),
  ("NEL", 0x85), ("START OF SELECTED AREA", 0x86), ("SSA", 0x86),
  ("END OF SELECTED AREA", 0x87), ("ESA", 0x87), ("CHARACTER TABULATION SET", 0x88),
  ("HORIZONTAL TABULATION SET", 0x88), ("HTS", 0x88),
  ("CHARACTER TABULATION WITH JUSTIFICATION", 0x89),
  ("HORIZONTAL TABULATION WITH JUSTIFICATION", 0x89), ("HTJ", 0x89),
  ("LINE TABULATION SET", 0x8A), ("VERTICAL TABULATION SET", 0x8A), ("VTS", 0x8A),
  ("PARTIAL LINE FORWARD", 0x8B), ("PARTIAL LINE DOWN", 0x8B), ("PLD", 0x8B),
  ("PARTIAL LINE BACKWARD", 0x8C), ("PARTIAL LINE UP", 0x8C), ("PLU", 0x8C),
  ("REVERSE LINE FEED", 0x8D), ("REVERSE INDEX", 0x8D), ("RI", 0x8D),
  ("SINGLE SHIFT TWO", 0x8E), ("SINGLE-SHIFT-2", 0x8E), ("SS2", 0x8E),
  ("SINGLE SHIFT THREE", 0x8F), ("SINGLE-SHIFT-3", 0x8F), ("SS3", 0x8F),
  ("DEVICE CONTROL STRING", 0x90), ("DCS", 0x90), ("PRIVATE USE ONE", 0x91),
  ("PRIVATE USE-1", 0x91), ("PU1", 0x91), ("PRIVATE USE TWO", 0x92), ("PRIVATE USE-2", 0x92),
  ("PU2", 0x92), ("SET TRANSMIT STATE", 0x93), ("STS", 0x93), ("CANCEL CHARACTER", 0x94),
  ("CCH", 0x94), ("MESSAGE WAITING", 0x95), ("MW", 0x95), ("START OF GUARDED AREA", 0x96),
  ("START OF PROTECTED AREA", 0x96), ("SPA", 0x96), ("END OF GUARDED AREA", 0x97),
  ("END OF PROTECTED AREA", 0x97), ("EPA", 0x97), ("START OF STRING", 0x98), ("SOS", 0x98),
  ("SINGLE GRAPHIC CHARACTER INTRODUCER", 0x99), ("SGC", 0x99),
  ("SINGLE CHARACTER INTRODUCER", 0x9A), ("SCI", 0x9A), ("CONTROL SEQUENCE INTRODUCER", 0x9B),
  ("CSI", 0x9B), ("STRING TERMINATOR", 0x9C), ("ST", 0x9C), ("OPERATING SYSTEM COMMAND", 0x9D),
  ("OSC", 0x9D), ("PRIVACY MESSAGE", 0x9E), ("PM", 0x9E), ("APPLICATION PROGRAM COMMAND", 0x9F),
  ("APC", 0x9F), ("NBSP", 0xA0), ("SHY", 0xAD), ("LATIN CAPITAL LETTER GHA", 0x1A2),
  ("LATIN SMALL LETTER GHA", 0x1A3), ("CGJ", 0x34F), ("ZWSP", 0x200B), ("ZWNJ", 0x200C),
  ("ZWJ", 0x200D), ("LRM", 0x200E), ("RLM", 0x200F), ("LRE", 0x202A), ("RLE", 0x202B),
  ("PDF", 0x202C), ("LRO", 0x202D), ("RLO", 0x202E), ("NNBSP", 0x202F), ("MMSP", 0x205F),
  ("WJ", 0x2060), ("LRI", 0x2066), ("RLI", 0x2067), ("FSI", 0x2068), ("PDI", 0x2069),
  ("WEIERSTRASS ELLIPTIC FUNCTION", 0x2118), ("BYTE ORDER MARK", 0xFEFF), ("BOM", 0xFEFF),
  ("ZWNBSP", 0xFEFF), ("MICR ON US SYMBOL", 0x2448), ("MICR DASH SYMBOL", 0x2449)]

end TextExpr.Unicode

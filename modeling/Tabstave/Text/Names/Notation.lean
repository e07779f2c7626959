/-!
# Names of notations

The names of the characters from 17000 to 1d7ff: the components of Tangut, old forms of kana, and
the signs of music and mathematics.
-/

namespace Tabstave.Text.Names

/-- The names of stretches of characters: the code point of the first, how the names begin, and how
they go on. -/
def namesNotation : List (Nat × String × List String) := [
  (0x18800, "TANGUT COMPONENT-",
    ["001;002;003;004;005;006;007;008;009;010;011;012;013;014;015;016;017;018;019;020;021;022",
     "023;024;025;026;027;028;029;030;031;032;033;034;035;036;037;038;039;040;041;042;043;044",
     "045;046;047;048;049;050;051;052;053;054;055;056;057;058;059;060;061;062;063;064;065;066",
     "067;068;069;070;071;072;073;074;075;076;077;078;079;080;081;082;083;084;085;086;087;088",
     "089;090;091;092;093;094;095;096;097;098;099;100;101;102;103;104;105;106;107;108;109;110",
     "111;112;113;114;115;116;117;118;119;120;121;122;123;124;125;126;127;128;129;130;131;132",
     "133;134;135;136;137;138;139;140;141;142;143;144;145;146;147;148;149;150;151;152;153;154",
     "155;156;157;158;159;160;161;162;163;164;165;166;167;168;169;170;171;172;173;174;175;176",
     "177;178;179;180;181;182;183;184;185;186;187;188;189;190;191;192;193;194;195;196;197;198",
     "199;200;201;202;203;204;205;206;207;208;209;210;211;212;213;214;215;216;217;218;219;220",
     "221;222;223;224;225;226;227;228;229;230;231;232;233;234;235;236;237;238;239;240;241;242",
     "243;244;245;246;247;248;249;250;251;252;253;254;255;256;257;258;259;260;261;262;263;264",
     "265;266;267;268;269;270;271;272;273;274;275;276;277;278;279;280;281;282;283;284;285;286",
     "287;288;289;290;291;292;293;294;295;296;297;298;299;300;301;302;303;304;305;306;307;308",
     "309;310;311;312;313;314;315;316;317;318;319;320;321;322;323;324;325;326;327;328;329;330",
     "331;332;333;334;335;336;337;338;339;340;341;342;343;344;345;346;347;348;349;350;351;352",
     "353;354;355;356;357;358;359;360;361;362;363;364;365;366;367;368;369;370;371;372;373;374",
     "375;376;377;378;379;380;381;382;383;384;385;386;387;388;389;390;391;392;393;394;395;396",
     "397;398;399;400;401;402;403;404;405;406;407;408;409;410;411;412;413;414;415;416;417;418",
     "419;420;421;422;423;424;425;426;427;428;429;430;431;432;433;434;435;436;437;438;439;440",
     "441;442;443;444;445;446;447;448;449;450;451;452;453;454;455;456;457;458;459;460;461;462",
     "463;464;465;466;467;468;469;470;471;472;473;474;475;476;477;478;479;480;481;482;483;484",
     "485;486;487;488;489;490;491;492;493;494;495;496;497;498;499;500;501;502;503;504;505;506",
     "507;508;509;510;511;512;513;514;515;516;517;518;519;520;521;522;523;524;525;526;527;528",
     "529;530;531;532;533;534;535;536;537;538;539;540;541;542;543;544;545;546;547;548;549;550",
     "551;552;553;554;555;556;557;558;559;560;561;562;563;564;565;566;567;568;569;570;571;572",
     "573;574;575;576;577;578;579;580;581;582;583;584;585;586;587;588;589;590;591;592;593;594",
     "595;596;597;598;599;600;601;602;603;604;605;606;607;608;609;610;611;612;613;614;615;616",
     "617;618;619;620;621;622;623;624;625;626;627;628;629;630;631;632;633;634;635;636;637;638",
     "639;640;641;642;643;644;645;646;647;648;649;650;651;652;653;654;655;656;657;658;659;660",
     "661;662;663;664;665;666;667;668;669;670;671;672;673;674;675;676;677;678;679;680;681;682",
     "683;684;685;686;687;688;689;690;691;692;693;694;695;696;697;698;699;700;701;702;703;704",
     "705;706;707;708;709;710;711;712;713;714;715;716;717;718;719;720;721;722;723;724;725;726",
     "727;728;729;730;731;732;733;734;735;736;737;738;739;740;741;742;743;744;745;746;747;748",
     "749;750;751;752;753;754;755;756;757;758;759;760;761;762;763;764;765;766;767;768"]),
  (0x1aff0, "KATAKANA LETTER MINNAN TONE-", ["2;3;4;5;;7;8"]),
  (0x1aff7, "KATAKANA LETTER MINNAN NASALIZED TONE-", ["1;2;3;4;5;;7;8"]),
  (0x1b000, "", ["KATAKANA LETTER ARCHAIC E;HIRAGANA LETTER ARCHAIC YE"]),
  (0x1b002, "HENTAIGANA LETTER ",
    ["A-1;A-2;A-3;A-WO;I-1;I-2;I-3;I-4;U-1;U-2;U-3;U-4;U-5;E-2;E-3;E-4;E-5;E-6;O-1;O-2;O-3;KA-1",
     "KA-2;KA-3;KA-4;KA-5;KA-6;KA-7;KA-8;KA-9;KA-10;KA-11;KA-KE;KI-1;KI-2;KI-3;KI-4;KI-5;KI-6",
     "KI-7;KI-8;KU-1;KU-2;KU-3;KU-4;KU-5;KU-6;KU-7;KE-1;KE-2;KE-3;KE-4;KE-5;KE-6;KO-1;KO-2;KO-3",
     "KO-KI;SA-1;SA-2;SA-3;SA-4;SA-5;SA-6;SA-7;SA-8;SI-1;SI-2;SI-3;SI-4;SI-5;SI-6;SU-1;SU-2;SU-3",
     "SU-4;SU-5;SU-6;SU-7;SU-8;SE-1;SE-2;SE-3;SE-4;SE-5;SO-1;SO-2;SO-3;SO-4;SO-5;SO-6;SO-7;TA-1",
     "TA-2;TA-3;TA-4;TI-1;TI-2;TI-3;TI-4;TI-5;TI-6;TI-7;TU-1;TU-2;TU-3;TU-4;TU-TO;TE-1;TE-2;TE-3",
     "TE-4;TE-5;TE-6;TE-7;TE-8;TE-9;TO-1;TO-2;TO-3;TO-4;TO-5;TO-6;TO-RA;NA-1;NA-2;NA-3;NA-4;NA-5",
     "NA-6;NA-7;NA-8;NA-9;NI-1;NI-2;NI-3;NI-4;NI-5;NI-6;NI-7;NI-TE;NU-1;NU-2;NU-3;NE-1;NE-2;NE-3",
     "NE-4;NE-5;NE-6;NE-KO;NO-1;NO-2;NO-3;NO-4;NO-5;HA-1;HA-2;HA-3;HA-4;HA-5;HA-6;HA-7;HA-8;HA-9",
     "HA-10;HA-11;HI-1;HI-2;HI-3;HI-4;HI-5;HI-6;HI-7;HU-1;HU-2;HU-3;HE-1;HE-2;HE-3;HE-4;HE-5",
     "HE-6;HE-7;HO-1;HO-2;HO-3;HO-4;HO-5;HO-6;HO-7;HO-8;MA-1;MA-2;MA-3;MA-4;MA-5;MA-6;MA-7;MI-1",
     "MI-2;MI-3;MI-4;MI-5;MI-6;MI-7;MU-1;MU-2;MU-3;MU-4;ME-1;ME-2;ME-MA;MO-1;MO-2;MO-3;MO-4;MO-5",
     "MO-6;YA-1;YA-2;YA-3;YA-4;YA-5;YA-YO;YU-1;YU-2;YU-3;YU-4;YO-1;YO-2;YO-3;YO-4;YO-5;YO-6;RA-1",
     "RA-2;RA-3;RA-4;RI-1;RI-2;RI-3;RI-4;RI-5;RI-6;RI-7;RU-1;RU-2;RU-3;RU-4;RU-5;RU-6;RE-1;RE-2",
     "RE-3;RE-4;RO-1;RO-2;RO-3;RO-4;RO-5;RO-6;WA-1;WA-2;WA-3;WA-4;WA-5;WI-1;WI-2;WI-3;WI-4;WI-5",
     "WE-1;WE-2;WE-3;WE-4;WO-1;WO-2;WO-3;WO-4;WO-5;WO-6;WO-7;N-MU-MO-1;N-MU-MO-2"]),
  (0x1b11f, "HIRAGANA LETTER ARCHAIC ", ["WU"]),
  (0x1b120, "KATAKANA LETTER ARCHAIC ", ["YI;YE;WU"]),
  (0x1b150, "HIRAGANA LETTER SMALL ", ["WI;WE;WO"]),
  (0x1b164, "KATAKANA LETTER SMALL ", ["WI;WE;WO;N"]),
  (0x1bc00, "DUPLOYAN LETTER ",
    ["H;X;P;T;F;K;L;B;D;V;G;R;P N;D S;F N;K M;R S;TH;SLOAN DH;DH;KK;SLOAN J;HL;LH;RH;M;N;J;S;M N",
     "N M;J M;S J;M WITH DOT;N WITH DOT;J WITH DOT;J WITH DOTS INSIDE AND ABOVE;S WITH DOT",
     "S WITH DOT BELOW;M S;N S;J S;S S;M N S;N M S;J M S;S J S;J S WITH DOT;J N;J N S;S T;S T R",
     "S P;S P R;T S;T R S;W;WH;W R;S N;S M;K R S;G R S;S K;S K R;A;SLOAN OW;OA;O;AOU;I;E;IE",
     "SHORT I;UI;EE;SLOAN EH;ROMANIAN I;SLOAN EE;LONG I;YE;U;EU;XW;U N;LONG U;ROMANIAN U;UH",
     "SLOAN U;OOH;OW;OU;WA;WO;WI;WEI;WOW;NASAL U;NASAL O;NASAL I;NASAL A;PERNIN AN;PERNIN AM",
     "SLOAN EN;SLOAN AN;SLOAN ON;VOCALIC M"]),
  (0x1bc70, "DUPLOYAN AFFIX ",
    ["LEFT HORIZONTAL SECANT;MID HORIZONTAL SECANT;RIGHT HORIZONTAL SECANT;LOW VERTICAL SECANT",
     "MID VERTICAL SECANT;HIGH VERTICAL SECANT"]),
  (0x1bc76, "DUPLOYAN AFFIX ATTACHED ",
    ["SECANT;LEFT-TO-RIGHT SECANT;TANGENT;TAIL;E HOOK;I HOOK;TANGENT HOOK"]),
  (0x1bc80, "DUPLOYAN AFFIX HIGH ",
    ["ACUTE;TIGHT ACUTE;GRAVE;LONG GRAVE;DOT;CIRCLE;LINE;WAVE;VERTICAL"]),
  (0x1bc90, "DUPLOYAN AFFIX LOW ",
    ["ACUTE;TIGHT ACUTE;GRAVE;LONG GRAVE;DOT;CIRCLE;LINE;WAVE;VERTICAL;ARROW"]),
  (0x1bc9c, "DUPLOYAN ",
    ["SIGN O WITH CROSS;THICK LETTER SELECTOR;DOUBLE MARK;PUNCTUATION CHINOOK FULL STOP"]),
  (0x1bca0, "SHORTHAND FORMAT ", ["LETTER OVERLAP;CONTINUING OVERLAP;DOWN STEP;UP STEP"]),
  (0x1cf00, "ZNAMENNY COMBINING MARK ",
    ["GORAZDO NIZKO S KRYZHEM ON LEFT;NIZKO S KRYZHEM ON LEFT;TSATA ON LEFT",
     "GORAZDO NIZKO ON LEFT;NIZKO ON LEFT;SREDNE ON LEFT;MALO POVYSHE ON LEFT;POVYSHE ON LEFT",
     "VYSOKO ON LEFT;MALO POVYSHE S KHOKHLOM ON LEFT;POVYSHE S KHOKHLOM ON LEFT",
     "VYSOKO S KHOKHLOM ON LEFT;GORAZDO NIZKO S KRYZHEM ON RIGHT;NIZKO S KRYZHEM ON RIGHT",
     "TSATA ON RIGHT;GORAZDO NIZKO ON RIGHT;NIZKO ON RIGHT;SREDNE ON RIGHT;MALO POVYSHE ON RIGHT",
     "POVYSHE ON RIGHT;VYSOKO ON RIGHT;MALO POVYSHE S KHOKHLOM ON RIGHT",
     "POVYSHE S KHOKHLOM ON RIGHT;VYSOKO S KHOKHLOM ON RIGHT;TSATA S KRYZHEM",
     "MALO POVYSHE S KRYZHEM;STRANNO MALO POVYSHE;POVYSHE S KRYZHEM;POVYSHE STRANNO",
     "VYSOKO S KRYZHEM;MALO POVYSHE STRANNO;GORAZDO VYSOKO;ZELO;ON;RAVNO;TIKHAYA;BORZAYA;UDARKA",
     "PODVERTKA;LOMKA;KUPNAYA;KACHKA;ZEVOK;SKOBA;RAZSEKA;KRYZH ON LEFT"]),
  (0x1cf30, "ZNAMENNY COMBINING TONAL RANGE MARK ", ["MRACHNO;SVETLO;TRESVETLO"]),
  (0x1cf33, "ZNAMENNY COMBINING MARK ",
    ["ZADERZHKA;DEMESTVENNY ZADERZHKA;OTSECHKA;PODCHASHIE;PODCHASHIE WITH VERTICAL STROKE",
     "CHASHKA;CHASHKA POLNAYA;OBLACHKO;SOROCHYA NOZHKA;TOCHKA;DVOETOCHIE"]),
  (0x1cf3e, "ZNAMENNY COMBINING ",
    ["ATTACHING VERTICAL OMET;MARK CURVED OMET;MARK KRYZH;LOWER TONAL RANGE INDICATOR"]),
  (0x1cf42, "ZNAMENNY PRIZNAK MODIFIER ", ["LEVEL-2;LEVEL-3;DIRECTION FLIP;KRYZH;ROG"]),
  (0x1cf50, "ZNAMENNY NEUME ",
    ["KRYUK;KRYUK TIKHY;PARAKLIT;DVA V CHELNU;KLYUCH;ZANOZHEK;STOPITSA;STOPITSA S OCHKOM",
     "PEREVODKA;PEREVODKA NEPOSTOYANNAYA;STOPITSA WITH SOROCHYA NOZHKA;CHELYUSTKA;PALKA",
     "ZAPYATAYA;GOLUBCHIK BORZY;GOLUBCHIK TIKHY;GOLUBCHIK MRACHNY;GOLUBCHIK SVETLY",
     "GOLUBCHIK TRESVETLY;VRAKHIYA PROSTAYA;VRAKHIYA MRACHNAYA;VRAKHIYA SVETLAYA",
     "VRAKHIYA TRESVETLAYA;VRAKHIYA KLYUCHEVAYA PROSTAYA;VRAKHIYA KLYUCHEVAYA MRACHNAYA",
     "VRAKHIYA KLYUCHEVAYA SVETLAYA;VRAKHIYA KLYUCHEVAYA TRESVETLAYA;DOUBLE ZAPYATAYA",
     "REVERSED CHELYUSTKA;DERBITSA;KHAMILO;CHASHKA;PODCHASHIE;SKAMEYTSA MRACHNAYA",
     "SKAMEYTSA SVETLAYA;SKAMEYTSA TRESVETLAYA;SKAMEYTSA TIKHAYA;DEMESTVENNY KLYUCH",
     "SKAMEYTSA KLYUCHEVAYA SVETLAYA;SKAMEYTSA KLYUCHENEPOSTOYANNAYA",
     "SKAMEYTSA KLYUCHEVAYA TIKHAYA;SKAMEYTSA DVOECHELNAYA PROSTAYA",
     "SKAMEYTSA DVOECHELNAYA SVETLAYA;SKAMEYTSA DVOECHELNAYA NEPOSTOYANNAYA",
     "SKAMEYTSA DVOECHELNAYA KLYUCHEVAYA;SLOZHITIE;SLOZHITIE S ZAPYATOY;SLOZHITIE ZAKRYTOE",
     "SLOZHITIE S KRYZHEM;KRYZH;ROG;FITA;KOBYLA;ZMEYTSA;STATYA;STATYA S ZAPYATOY",
     "STATYA S KRYZHEM;STATYA S ZAPYATOY I KRYZHEM;STATYA S KRYZHEM I ZAPYATOY;STATYA ZAKRYTAYA",
     "STATYA ZAKRYTAYA S ZAPYATOY;STATYA S ROGOM;STATYA S DVUMYA ZAPYATYMI",
     "STATYA S ZAPYATOY I PODCHASHIEM;POLKULIZMY;STATYA NEPOSTOYANNAYA"]),
  (0x1cf92, "ZNAMENNY NEUME STRELA ",
    ["PROSTAYA;MRACHNOTIKHAYA;KRYZHEVAYA;POLUPOVODNAYA;POVODNAYA;NEPOSTOYANNAYA;KLYUCHEPOVODNAYA",
     "KLYUCHENEPOSTOYANNAYA;TIKHAYA PUTNAYA;DVOECHELNAYA;DVOECHELNOKRYZHEVAYA",
     "DVOECHELNOPOVODNAYA;DVOECHELNAYA KLYUCHEVAYA;DVOECHELNOPOVODNAYA KLYUCHEVAYA",
     "GROMNAYA WITH SINGLE ZAPYATAYA;GROMOPOVODNAYA WITH SINGLE ZAPYATAYA;GROMNAYA",
     "GROMOPOVODNAYA;GROMOPOVODNAYA WITH DOUBLE ZAPYATAYA;GROMOKRYZHEVAYA",
     "GROMOKRYZHEVAYA POVODNAYA"]),
  (0x1cfa7, "ZNAMENNY NEUME ",
    ["MECHIK;MECHIK POVODNY;MECHIK KLYUCHEVOY;MECHIK KLYUCHEPOVODNY;MECHIK KLYUCHENEPOSTOYANNY",
     "STRELA TRYASOGLASNAYA;STRELA TRYASOPOVODNAYA;STRELA TRYASOSTRELNAYA;OSOKA;OSOKA SVETLAYA",
     "OSOKA TRESVETLAYA;OSOKA KRYUKOVAYA SVETLAYA;OSOKA KLYUCHEVAYA SVETLAYA",
     "OSOKA KLYUCHEVAYA NEPOSTOYANNAYA;STRELA KRYUKOVAYA"]),
  (0x1cfb6, "ZNAMENNY NEUME STRELA KRYUKOVAYA ",
    ["POVODNAYA;GROMNAYA WITH SINGLE ZAPYATAYA;GROMOPOVODNAYA WITH SINGLE ZAPYATAYA;GROMNAYA",
     "GROMOPOVODNAYA;GROMOPOVODNAYA WITH DOUBLE ZAPYATAYA;GROMOKRYZHEVAYA",
     "GROMOKRYZHEVAYA POVODNAYA;TRYASKA"]),
  (0x1cfbf, "ZNAMENNY NEUME ", ["KUFISMA;OBLAKO;DUDA;NEMKA;PAUK"]),
  (0x1d000, "BYZANTINE MUSICAL SYMBOL ",
    ["PSILI;DASEIA;PERISPOMENI;OXEIA EKFONITIKON;OXEIA DIPLI;VAREIA EKFONITIKON;VAREIA DIPLI",
     "KATHISTI;SYRMATIKI;PARAKLITIKI;YPOKRISIS;YPOKRISIS DIPLI;KREMASTI;APESO EKFONITIKON",
     "EXO EKFONITIKON;TELEIA;KENTIMATA;APOSTROFOS;APOSTROFOS DIPLI;SYNEVMA;THITA;OLIGON ARCHAION",
     "GORGON ARCHAION;PSILON;CHAMILON;VATHY;ISON ARCHAION;KENTIMA ARCHAION;KENTIMATA ARCHAION",
     "SAXIMATA;PARICHON;STAVROS APODEXIA;OXEIAI ARCHAION;VAREIAI ARCHAION;APODERMA ARCHAION",
     "APOTHEMA;KLASMA;REVMA;PIASMA ARCHAION;TINAGMA;ANATRICHISMA;SEISMA;SYNAGMA ARCHAION",
     "SYNAGMA META STAVROU;OYRANISMA ARCHAION;THEMA;LEMOI;DYO;TRIA;TESSERA;KRATIMATA",
     "APESO EXO NEO;FTHORA ARCHAION;IMIFTHORA;TROMIKON ARCHAION;KATAVA TROMIKON;PELASTON",
     "PSIFISTON;KONTEVMA;CHOREVMA ARCHAION;RAPISMA;PARAKALESMA ARCHAION;PARAKLITIKI ARCHAION",
     "ICHADIN;NANA;PETASMA;KONTEVMA ALLO;TROMIKON ALLO;STRAGGISMATA;GRONTHISMATA;ISON NEO",
     "OLIGON NEO;OXEIA NEO;PETASTI;KOUFISMA;PETASTOKOUFISMA;KRATIMOKOUFISMA;PELASTON NEO",
     "KENTIMATA NEO ANO;KENTIMA NEO ANO;YPSILI;APOSTROFOS NEO;APOSTROFOI SYNDESMOS NEO;YPORROI",
     "KRATIMOYPORROON;ELAFRON;CHAMILI;MIKRON ISON;VAREIA NEO;PIASMA NEO;PSIFISTON NEO;OMALON",
     "ANTIKENOMA;LYGISMA;PARAKLITIKI NEO;PARAKALESMA NEO;ETERON PARAKALESMA;KYLISMA",
     "ANTIKENOKYLISMA;TROMIKON NEO;EKSTREPTON;SYNAGMA NEO;SYRMA;CHOREVMA NEO;EPEGERMA;SEISMA NEO",
     "XIRON KLASMA;TROMIKOPSIFISTON;PSIFISTOLYGISMA;TROMIKOLYGISMA;TROMIKOPARAKALESMA",
     "PSIFISTOPARAKALESMA;TROMIKOSYNAGMA;PSIFISTOSYNAGMA;GORGOSYNTHETON;ARGOSYNTHETON",
     "ETERON ARGOSYNTHETON;OYRANISMA NEO;THEMATISMOS ESO;THEMATISMOS EXO;THEMA APLOUN",
     "THES KAI APOTHES;KATAVASMA;ENDOFONON;YFEN KATO;YFEN ANO;STAVROS;KLASMA ANO;DIPLI ARCHAION",
     "KRATIMA ARCHAION;KRATIMA ALLO;KRATIMA NEO;APODERMA NEO;APLI;DIPLI;TRIPLI;TETRAPLI;KORONIS",
     "LEIMMA ENOS CHRONOU;LEIMMA DYO CHRONON;LEIMMA TRION CHRONON;LEIMMA TESSARON CHRONON",
     "LEIMMA IMISEOS CHRONOU;GORGON NEO ANO;GORGON PARESTIGMENON ARISTERA",
     "GORGON PARESTIGMENON DEXIA;DIGORGON;DIGORGON PARESTIGMENON ARISTERA KATO",
     "DIGORGON PARESTIGMENON ARISTERA ANO;DIGORGON PARESTIGMENON DEXIA;TRIGORGON;ARGON",
     "IMIDIARGON;DIARGON;AGOGI POLI ARGI;AGOGI ARGOTERI;AGOGI ARGI;AGOGI METRIA;AGOGI MESI",
     "AGOGI GORGI;AGOGI GORGOTERI;AGOGI POLI GORGI;MARTYRIA PROTOS ICHOS",
     "MARTYRIA ALLI PROTOS ICHOS;MARTYRIA DEYTEROS ICHOS;MARTYRIA ALLI DEYTEROS ICHOS",
     "MARTYRIA TRITOS ICHOS;MARTYRIA TRIFONIAS;MARTYRIA TETARTOS ICHOS",
     "MARTYRIA TETARTOS LEGETOS ICHOS;MARTYRIA LEGETOS ICHOS;MARTYRIA PLAGIOS ICHOS",
     "ISAKIA TELOUS ICHIMATOS;APOSTROFOI TELOUS ICHIMATOS;FANEROSIS TETRAFONIAS",
     "FANEROSIS MONOFONIAS;FANEROSIS DIFONIAS;MARTYRIA VARYS ICHOS;MARTYRIA PROTOVARYS ICHOS",
     "MARTYRIA PLAGIOS TETARTOS ICHOS;GORTHMIKON N APLOUN;GORTHMIKON N DIPLOUN",
     "ENARXIS KAI FTHORA VOU;IMIFONON;IMIFTHORON;FTHORA ARCHAION DEYTEROU ICHOU",
     "FTHORA DIATONIKI PA;FTHORA DIATONIKI NANA;FTHORA NAOS ICHOS;FTHORA DIATONIKI DI",
     "FTHORA SKLIRON DIATONON DI;FTHORA DIATONIKI KE;FTHORA DIATONIKI ZO",
     "FTHORA DIATONIKI NI KATO;FTHORA DIATONIKI NI ANO;FTHORA MALAKON CHROMA DIFONIAS",
     "FTHORA MALAKON CHROMA MONOFONIAS;FHTORA SKLIRON CHROMA VASIS;FTHORA SKLIRON CHROMA SYNAFI",
     "FTHORA NENANO;CHROA ZYGOS;CHROA KLITON;CHROA SPATHI;FTHORA I YFESIS TETARTIMORION",
     "FTHORA ENARMONIOS ANTIFONIA;YFESIS TRITIMORION;DIESIS TRITIMORION;DIESIS TETARTIMORION",
     "DIESIS APLI DYO DODEKATA;DIESIS MONOGRAMMOS TESSERA DODEKATA;DIESIS DIGRAMMOS EX DODEKATA",
     "DIESIS TRIGRAMMOS OKTO DODEKATA;YFESIS APLI DYO DODEKATA",
     "YFESIS MONOGRAMMOS TESSERA DODEKATA;YFESIS DIGRAMMOS EX DODEKATA",
     "YFESIS TRIGRAMMOS OKTO DODEKATA;GENIKI DIESIS;GENIKI YFESIS;DIASTOLI APLI MIKRI",
     "DIASTOLI APLI MEGALI;DIASTOLI DIPLI;DIASTOLI THESEOS;SIMANSIS THESEOS",
     "SIMANSIS THESEOS DISIMOU;SIMANSIS THESEOS TRISIMOU;SIMANSIS THESEOS TETRASIMOU",
     "SIMANSIS ARSEOS;SIMANSIS ARSEOS DISIMOU;SIMANSIS ARSEOS TRISIMOU",
     "SIMANSIS ARSEOS TETRASIMOU;DIGRAMMA GG;DIFTOGGOS OU;STIGMA;ARKTIKO PA;ARKTIKO VOU",
     "ARKTIKO GA;ARKTIKO DI;ARKTIKO KE;ARKTIKO ZO;ARKTIKO NI;KENTIMATA NEO MESO;KENTIMA NEO MESO",
     "KENTIMATA NEO KATO;KENTIMA NEO KATO;KLASMA KATO;GORGON NEO KATO"]),
  (0x1d100, "MUSICAL SYMBOL ",
    ["SINGLE BARLINE;DOUBLE BARLINE;FINAL BARLINE;REVERSE FINAL BARLINE;DASHED BARLINE",
     "SHORT BARLINE;LEFT REPEAT SIGN;RIGHT REPEAT SIGN;REPEAT DOTS;DAL SEGNO;DA CAPO;SEGNO;CODA",
     "REPEATED FIGURE-1;REPEATED FIGURE-2;REPEATED FIGURE-3;FERMATA;FERMATA BELOW;BREATH MARK",
     "CAESURA;BRACE;BRACKET;ONE-LINE STAFF;TWO-LINE STAFF;THREE-LINE STAFF;FOUR-LINE STAFF",
     "FIVE-LINE STAFF;SIX-LINE STAFF;SIX-STRING FRETBOARD;FOUR-STRING FRETBOARD;G CLEF",
     "G CLEF OTTAVA ALTA;G CLEF OTTAVA BASSA;C CLEF;F CLEF;F CLEF OTTAVA ALTA",
     "F CLEF OTTAVA BASSA;DRUM CLEF-1;DRUM CLEF-2;;;MULTIPLE MEASURE REST;DOUBLE SHARP",
     "DOUBLE FLAT;FLAT UP;FLAT DOWN;NATURAL UP;NATURAL DOWN;SHARP UP;SHARP DOWN",
     "QUARTER TONE SHARP;QUARTER TONE FLAT;COMMON TIME;CUT TIME;OTTAVA ALTA;OTTAVA BASSA",
     "QUINDICESIMA ALTA;QUINDICESIMA BASSA;MULTI REST;WHOLE REST;HALF REST;QUARTER REST",
     "EIGHTH REST;SIXTEENTH REST;THIRTY-SECOND REST;SIXTY-FOURTH REST",
     "ONE HUNDRED TWENTY-EIGHTH REST;X NOTEHEAD;PLUS NOTEHEAD;CIRCLE X NOTEHEAD",
     "SQUARE NOTEHEAD WHITE;SQUARE NOTEHEAD BLACK"]),
  (0x1d148, "MUSICAL SYMBOL TRIANGLE NOTEHEAD ",
    ["UP WHITE;UP BLACK;LEFT WHITE;LEFT BLACK;RIGHT WHITE;RIGHT BLACK;DOWN WHITE;DOWN BLACK",
     "UP RIGHT WHITE;UP RIGHT BLACK"]),
  (0x1d152, "MUSICAL SYMBOL ",
    ["MOON NOTEHEAD WHITE;MOON NOTEHEAD BLACK;TRIANGLE-ROUND NOTEHEAD DOWN WHITE",
     "TRIANGLE-ROUND NOTEHEAD DOWN BLACK;PARENTHESIS NOTEHEAD;VOID NOTEHEAD;NOTEHEAD BLACK",
     "NULL NOTEHEAD;CLUSTER NOTEHEAD WHITE;CLUSTER NOTEHEAD BLACK;BREVE;WHOLE NOTE;HALF NOTE",
     "QUARTER NOTE;EIGHTH NOTE;SIXTEENTH NOTE;THIRTY-SECOND NOTE;SIXTY-FOURTH NOTE",
     "ONE HUNDRED TWENTY-EIGHTH NOTE;COMBINING STEM;COMBINING SPRECHGESANG STEM",
     "COMBINING TREMOLO-1;COMBINING TREMOLO-2;COMBINING TREMOLO-3;FINGERED TREMOLO-1",
     "FINGERED TREMOLO-2;FINGERED TREMOLO-3;COMBINING AUGMENTATION DOT;COMBINING FLAG-1",
     "COMBINING FLAG-2;COMBINING FLAG-3;COMBINING FLAG-4;COMBINING FLAG-5;BEGIN BEAM;END BEAM",
     "BEGIN TIE;END TIE;BEGIN SLUR;END SLUR;BEGIN PHRASE;END PHRASE;COMBINING ACCENT",
     "COMBINING STACCATO;COMBINING TENUTO;COMBINING STACCATISSIMO;COMBINING MARCATO",
     "COMBINING MARCATO-STACCATO;COMBINING ACCENT-STACCATO;COMBINING LOURE;ARPEGGIATO UP",
     "ARPEGGIATO DOWN;COMBINING DOIT;COMBINING RIP;COMBINING FLIP;COMBINING SMEAR;COMBINING BEND",
     "COMBINING DOUBLE TONGUE;COMBINING TRIPLE TONGUE;RINFORZANDO;SUBITO;Z;PIANO;MEZZO;FORTE",
     "CRESCENDO;DECRESCENDO;GRACE NOTE SLASH;GRACE NOTE NO SLASH;TR;TURN;INVERTED TURN",
     "TURN SLASH;TURN UP"]),
  (0x1d19b, "MUSICAL SYMBOL ORNAMENT STROKE-", ["1;2;3;4;5;6;7;8;9;10;11"]),
  (0x1d1a6, "MUSICAL SYMBOL ",
    ["HAUPTSTIMME;NEBENSTIMME;END OF STIMME;DEGREE SLASH;COMBINING DOWN BOW;COMBINING UP BOW",
     "COMBINING HARMONIC;COMBINING SNAP PIZZICATO;PEDAL MARK;PEDAL UP MARK;HALF PEDAL MARK",
     "GLISSANDO UP;GLISSANDO DOWN;WITH FINGERNAILS;DAMP;DAMP ALL;MAXIMA;LONGA;BREVIS",
     "SEMIBREVIS WHITE;SEMIBREVIS BLACK;MINIMA;MINIMA BLACK;SEMIMINIMA WHITE;SEMIMINIMA BLACK",
     "FUSA WHITE;FUSA BLACK;LONGA PERFECTA REST;LONGA IMPERFECTA REST;BREVIS REST",
     "SEMIBREVIS REST;MINIMA REST;SEMIMINIMA REST"]),
  (0x1d1c7, "MUSICAL SYMBOL TEMPUS PERFECTUM CUM PROLATIONE ",
    ["PERFECTA;IMPERFECTA;PERFECTA DIMINUTION-1"]),
  (0x1d1ca, "MUSICAL SYMBOL TEMPUS IMPERFECTUM CUM PROLATIONE ",
    ["PERFECTA;IMPERFECTA;IMPERFECTA DIMINUTION-1;IMPERFECTA DIMINUTION-2",
     "IMPERFECTA DIMINUTION-3"]),
  (0x1d1cf, "MUSICAL SYMBOL ",
    ["CROIX;GREGORIAN C CLEF;GREGORIAN F CLEF;SQUARE B;VIRGA;PODATUS;CLIVIS;SCANDICUS;CLIMACUS",
     "TORCULUS;PORRECTUS;PORRECTUS FLEXUS;SCANDICUS FLEXUS;TORCULUS RESUPINUS;PES SUBPUNCTIS",
     "KIEVAN C CLEF;KIEVAN END OF PIECE;KIEVAN FINAL NOTE;KIEVAN RECITATIVE MARK",
     "KIEVAN WHOLE NOTE;KIEVAN HALF NOTE;KIEVAN QUARTER NOTE STEM DOWN",
     "KIEVAN QUARTER NOTE STEM UP;KIEVAN EIGHTH NOTE STEM DOWN;KIEVAN EIGHTH NOTE STEM UP",
     "KIEVAN FLAT SIGN;SORI;KORON"]),
  (0x1d200, "GREEK VOCAL NOTATION SYMBOL-",
    ["1;2;3;4;5;6;7;8;9;10;11;12;13;14;15;16;17;18;19;20;21;22;23;24;50;51;52;53;54"]),
  (0x1d21d, "GREEK INSTRUMENTAL NOTATION SYMBOL-",
    ["1;2;4;5;7;8;11;12;13;14;17;18;19;23;24;25;26;27;29;30;32;36;37;38;39;40;42;43;45;47;48;49",
     "50;51;52;53;54"]),
  (0x1d242, "COMBINING GREEK MUSICAL ", ["TRISEME;TETRASEME;PENTASEME"]),
  (0x1d245, "GREEK MUSICAL ", ["LEIMMA"]),
  (0x1d2e0, "MAYAN NUMERAL ",
    ["ZERO;ONE;TWO;THREE;FOUR;FIVE;SIX;SEVEN;EIGHT;NINE;TEN;ELEVEN;TWELVE;THIRTEEN;FOURTEEN",
     "FIFTEEN;SIXTEEN;SEVENTEEN;EIGHTEEN;NINETEEN"]),
  (0x1d300, "MONOGRAM FOR ", ["EARTH"]),
  (0x1d301, "DIGRAM FOR ", ["HEAVENLY EARTH;HUMAN EARTH;EARTHLY HEAVEN;EARTHLY HUMAN;EARTH"]),
  (0x1d306, "TETRAGRAM FOR ",
    ["CENTRE;FULL CIRCLE;MIRED;BARRIER;KEEPING SMALL;CONTRARIETY;ASCENT;OPPOSITION;BRANCHING OUT",
     "DEFECTIVENESS OR DISTORTION;DIVERGENCE;YOUTHFULNESS;INCREASE;PENETRATION;REACH;CONTACT",
     "HOLDING BACK;WAITING;FOLLOWING;ADVANCE;RELEASE;RESISTANCE;EASE;JOY;CONTENTION;ENDEAVOUR",
     "DUTIES;CHANGE;DECISIVENESS;BOLD RESOLUTION;PACKING;LEGION;CLOSENESS;KINSHIP;GATHERING",
     "STRENGTH;PURITY;FULLNESS;RESIDENCE;LAW OR MODEL;RESPONSE;GOING TO MEET;ENCOUNTERS;STOVE",
     "GREATNESS;ENLARGEMENT;PATTERN;RITUAL;FLIGHT;VASTNESS OR WASTING;CONSTANCY;MEASURE;ETERNITY",
     "UNITY;DIMINISHMENT;CLOSED MOUTH;GUARDEDNESS;GATHERING IN;MASSING;ACCUMULATION",
     "EMBELLISHMENT;DOUBT;WATCH;SINKING;INNER;DEPARTURE;DARKENING;DIMMING;EXHAUSTION;SEVERANCE",
     "STOPPAGE;HARDNESS;COMPLETION;CLOSURE;FAILURE;AGGRAVATION;COMPLIANCE;ON THE VERGE",
     "DIFFICULTIES;LABOURING;FOSTERING"]),
  (0x1d360, "COUNTING ROD UNIT DIGIT ", ["ONE;TWO;THREE;FOUR;FIVE;SIX;SEVEN;EIGHT;NINE"]),
  (0x1d369, "COUNTING ROD TENS DIGIT ", ["ONE;TWO;THREE;FOUR;FIVE;SIX;SEVEN;EIGHT;NINE"]),
  (0x1d372, "IDEOGRAPHIC TALLY MARK ", ["ONE;TWO;THREE;FOUR;FIVE"]),
  (0x1d377, "TALLY MARK ", ["ONE;FIVE"]),
  (0x1d400, "MATHEMATICAL BOLD CAPITAL ",
    ["A;B;C;D;E;F;G;H;I;J;K;L;M;N;O;P;Q;R;S;T;U;V;W;X;Y;Z"]),
  (0x1d41a, "MATHEMATICAL BOLD SMALL ", ["A;B;C;D;E;F;G;H;I;J;K;L;M;N;O;P;Q;R;S;T;U;V;W;X;Y;Z"]),
  (0x1d434, "MATHEMATICAL ITALIC CAPITAL ",
    ["A;B;C;D;E;F;G;H;I;J;K;L;M;N;O;P;Q;R;S;T;U;V;W;X;Y;Z"]),
  (0x1d44e, "MATHEMATICAL ITALIC SMALL ", ["A;B;C;D;E;F;G;;I;J;K;L;M;N;O;P;Q;R;S;T;U;V;W;X;Y;Z"]),
  (0x1d468, "MATHEMATICAL BOLD ITALIC CAPITAL ",
    ["A;B;C;D;E;F;G;H;I;J;K;L;M;N;O;P;Q;R;S;T;U;V;W;X;Y;Z"]),
  (0x1d482, "MATHEMATICAL BOLD ITALIC SMALL ",
    ["A;B;C;D;E;F;G;H;I;J;K;L;M;N;O;P;Q;R;S;T;U;V;W;X;Y;Z"]),
  (0x1d49c, "MATHEMATICAL SCRIPT CAPITAL ", ["A;;C;D;;;G;;;J;K;;;N;O;P;Q;;S;T;U;V;W;X;Y;Z"]),
  (0x1d4b6, "MATHEMATICAL SCRIPT SMALL ", ["A;B;C;D;;F;;H;I;J;K;L;M;N;;P;Q;R;S;T;U;V;W;X;Y;Z"]),
  (0x1d4d0, "MATHEMATICAL BOLD SCRIPT CAPITAL ",
    ["A;B;C;D;E;F;G;H;I;J;K;L;M;N;O;P;Q;R;S;T;U;V;W;X;Y;Z"]),
  (0x1d4ea, "MATHEMATICAL BOLD SCRIPT SMALL ",
    ["A;B;C;D;E;F;G;H;I;J;K;L;M;N;O;P;Q;R;S;T;U;V;W;X;Y;Z"]),
  (0x1d504, "MATHEMATICAL FRAKTUR CAPITAL ", ["A;B;;D;E;F;G;;;J;K;L;M;N;O;P;Q;;S;T;U;V;W;X;Y"]),
  (0x1d51e, "MATHEMATICAL FRAKTUR SMALL ",
    ["A;B;C;D;E;F;G;H;I;J;K;L;M;N;O;P;Q;R;S;T;U;V;W;X;Y;Z"]),
  (0x1d538, "MATHEMATICAL DOUBLE-STRUCK CAPITAL ",
    ["A;B;;D;E;F;G;;I;J;K;L;M;;O;;;;S;T;U;V;W;X;Y"]),
  (0x1d552, "MATHEMATICAL DOUBLE-STRUCK SMALL ",
    ["A;B;C;D;E;F;G;H;I;J;K;L;M;N;O;P;Q;R;S;T;U;V;W;X;Y;Z"]),
  (0x1d56c, "MATHEMATICAL BOLD FRAKTUR CAPITAL ",
    ["A;B;C;D;E;F;G;H;I;J;K;L;M;N;O;P;Q;R;S;T;U;V;W;X;Y;Z"]),
  (0x1d586, "MATHEMATICAL BOLD FRAKTUR SMALL ",
    ["A;B;C;D;E;F;G;H;I;J;K;L;M;N;O;P;Q;R;S;T;U;V;W;X;Y;Z"]),
  (0x1d5a0, "MATHEMATICAL SANS-SERIF CAPITAL ",
    ["A;B;C;D;E;F;G;H;I;J;K;L;M;N;O;P;Q;R;S;T;U;V;W;X;Y;Z"]),
  (0x1d5ba, "MATHEMATICAL SANS-SERIF SMALL ",
    ["A;B;C;D;E;F;G;H;I;J;K;L;M;N;O;P;Q;R;S;T;U;V;W;X;Y;Z"]),
  (0x1d5d4, "MATHEMATICAL SANS-SERIF BOLD CAPITAL ",
    ["A;B;C;D;E;F;G;H;I;J;K;L;M;N;O;P;Q;R;S;T;U;V;W;X;Y;Z"]),
  (0x1d5ee, "MATHEMATICAL SANS-SERIF BOLD SMALL ",
    ["A;B;C;D;E;F;G;H;I;J;K;L;M;N;O;P;Q;R;S;T;U;V;W;X;Y;Z"]),
  (0x1d608, "MATHEMATICAL SANS-SERIF ITALIC CAPITAL ",
    ["A;B;C;D;E;F;G;H;I;J;K;L;M;N;O;P;Q;R;S;T;U;V;W;X;Y;Z"]),
  (0x1d622, "MATHEMATICAL SANS-SERIF ITALIC SMALL ",
    ["A;B;C;D;E;F;G;H;I;J;K;L;M;N;O;P;Q;R;S;T;U;V;W;X;Y;Z"]),
  (0x1d63c, "MATHEMATICAL SANS-SERIF BOLD ITALIC CAPITAL ",
    ["A;B;C;D;E;F;G;H;I;J;K;L;M;N;O;P;Q;R;S;T;U;V;W;X;Y;Z"]),
  (0x1d656, "MATHEMATICAL SANS-SERIF BOLD ITALIC SMALL ",
    ["A;B;C;D;E;F;G;H;I;J;K;L;M;N;O;P;Q;R;S;T;U;V;W;X;Y;Z"]),
  (0x1d670, "MATHEMATICAL MONOSPACE CAPITAL ",
    ["A;B;C;D;E;F;G;H;I;J;K;L;M;N;O;P;Q;R;S;T;U;V;W;X;Y;Z"]),
  (0x1d68a, "MATHEMATICAL MONOSPACE SMALL ",
    ["A;B;C;D;E;F;G;H;I;J;K;L;M;N;O;P;Q;R;S;T;U;V;W;X;Y;Z"]),
  (0x1d6a4, "MATHEMATICAL ITALIC SMALL DOTLESS ", ["I;J"]),
  (0x1d6a8, "MATHEMATICAL BOLD CAPITAL ",
    ["ALPHA;BETA;GAMMA;DELTA;EPSILON;ZETA;ETA;THETA;IOTA;KAPPA;LAMDA;MU;NU;XI;OMICRON;PI;RHO",
     "THETA SYMBOL;SIGMA;TAU;UPSILON;PHI;CHI;PSI;OMEGA"]),
  (0x1d6c1, "MATHEMATICAL BOLD ", ["NABLA"]),
  (0x1d6c2, "MATHEMATICAL BOLD SMALL ",
    ["ALPHA;BETA;GAMMA;DELTA;EPSILON;ZETA;ETA;THETA;IOTA;KAPPA;LAMDA;MU;NU;XI;OMICRON;PI;RHO",
     "FINAL SIGMA;SIGMA;TAU;UPSILON;PHI;CHI;PSI;OMEGA"]),
  (0x1d6db, "MATHEMATICAL BOLD ",
    ["PARTIAL DIFFERENTIAL;EPSILON SYMBOL;THETA SYMBOL;KAPPA SYMBOL;PHI SYMBOL;RHO SYMBOL",
     "PI SYMBOL"]),
  (0x1d6e2, "MATHEMATICAL ITALIC CAPITAL ",
    ["ALPHA;BETA;GAMMA;DELTA;EPSILON;ZETA;ETA;THETA;IOTA;KAPPA;LAMDA;MU;NU;XI;OMICRON;PI;RHO",
     "THETA SYMBOL;SIGMA;TAU;UPSILON;PHI;CHI;PSI;OMEGA"]),
  (0x1d6fb, "MATHEMATICAL ITALIC ", ["NABLA"]),
  (0x1d6fc, "MATHEMATICAL ITALIC SMALL ",
    ["ALPHA;BETA;GAMMA;DELTA;EPSILON;ZETA;ETA;THETA;IOTA;KAPPA;LAMDA;MU;NU;XI;OMICRON;PI;RHO",
     "FINAL SIGMA;SIGMA;TAU;UPSILON;PHI;CHI;PSI;OMEGA"]),
  (0x1d715, "MATHEMATICAL ITALIC ",
    ["PARTIAL DIFFERENTIAL;EPSILON SYMBOL;THETA SYMBOL;KAPPA SYMBOL;PHI SYMBOL;RHO SYMBOL",
     "PI SYMBOL"]),
  (0x1d71c, "MATHEMATICAL BOLD ITALIC CAPITAL ",
    ["ALPHA;BETA;GAMMA;DELTA;EPSILON;ZETA;ETA;THETA;IOTA;KAPPA;LAMDA;MU;NU;XI;OMICRON;PI;RHO",
     "THETA SYMBOL;SIGMA;TAU;UPSILON;PHI;CHI;PSI;OMEGA"]),
  (0x1d735, "MATHEMATICAL BOLD ITALIC ", ["NABLA"]),
  (0x1d736, "MATHEMATICAL BOLD ITALIC SMALL ",
    ["ALPHA;BETA;GAMMA;DELTA;EPSILON;ZETA;ETA;THETA;IOTA;KAPPA;LAMDA;MU;NU;XI;OMICRON;PI;RHO",
     "FINAL SIGMA;SIGMA;TAU;UPSILON;PHI;CHI;PSI;OMEGA"]),
  (0x1d74f, "MATHEMATICAL BOLD ITALIC ",
    ["PARTIAL DIFFERENTIAL;EPSILON SYMBOL;THETA SYMBOL;KAPPA SYMBOL;PHI SYMBOL;RHO SYMBOL",
     "PI SYMBOL"]),
  (0x1d756, "MATHEMATICAL SANS-SERIF BOLD CAPITAL ",
    ["ALPHA;BETA;GAMMA;DELTA;EPSILON;ZETA;ETA;THETA;IOTA;KAPPA;LAMDA;MU;NU;XI;OMICRON;PI;RHO",
     "THETA SYMBOL;SIGMA;TAU;UPSILON;PHI;CHI;PSI;OMEGA"]),
  (0x1d76f, "MATHEMATICAL SANS-SERIF BOLD ", ["NABLA"]),
  (0x1d770, "MATHEMATICAL SANS-SERIF BOLD SMALL ",
    ["ALPHA;BETA;GAMMA;DELTA;EPSILON;ZETA;ETA;THETA;IOTA;KAPPA;LAMDA;MU;NU;XI;OMICRON;PI;RHO",
     "FINAL SIGMA;SIGMA;TAU;UPSILON;PHI;CHI;PSI;OMEGA"]),
  (0x1d789, "MATHEMATICAL SANS-SERIF BOLD ",
    ["PARTIAL DIFFERENTIAL;EPSILON SYMBOL;THETA SYMBOL;KAPPA SYMBOL;PHI SYMBOL;RHO SYMBOL",
     "PI SYMBOL"]),
  (0x1d790, "MATHEMATICAL SANS-SERIF BOLD ITALIC CAPITAL ",
    ["ALPHA;BETA;GAMMA;DELTA;EPSILON;ZETA;ETA;THETA;IOTA;KAPPA;LAMDA;MU;NU;XI;OMICRON;PI;RHO",
     "THETA SYMBOL;SIGMA;TAU;UPSILON;PHI;CHI;PSI;OMEGA"]),
  (0x1d7a9, "MATHEMATICAL SANS-SERIF BOLD ITALIC ", ["NABLA"]),
  (0x1d7aa, "MATHEMATICAL SANS-SERIF BOLD ITALIC SMALL ",
    ["ALPHA;BETA;GAMMA;DELTA;EPSILON;ZETA;ETA;THETA;IOTA;KAPPA;LAMDA;MU;NU;XI;OMICRON;PI;RHO",
     "FINAL SIGMA;SIGMA;TAU;UPSILON;PHI;CHI;PSI;OMEGA"]),
  (0x1d7c3, "MATHEMATICAL SANS-SERIF BOLD ITALIC ",
    ["PARTIAL DIFFERENTIAL;EPSILON SYMBOL;THETA SYMBOL;KAPPA SYMBOL;PHI SYMBOL;RHO SYMBOL",
     "PI SYMBOL"]),
  (0x1d7ca, "MATHEMATICAL BOLD ", ["CAPITAL DIGAMMA;SMALL DIGAMMA"]),
  (0x1d7ce, "MATHEMATICAL BOLD DIGIT ", ["ZERO;ONE;TWO;THREE;FOUR;FIVE;SIX;SEVEN;EIGHT;NINE"]),
  (0x1d7d8, "MATHEMATICAL DOUBLE-STRUCK DIGIT ",
    ["ZERO;ONE;TWO;THREE;FOUR;FIVE;SIX;SEVEN;EIGHT;NINE"]),
  (0x1d7e2, "MATHEMATICAL SANS-SERIF DIGIT ",
    ["ZERO;ONE;TWO;THREE;FOUR;FIVE;SIX;SEVEN;EIGHT;NINE"]),
  (0x1d7ec, "MATHEMATICAL SANS-SERIF BOLD DIGIT ",
    ["ZERO;ONE;TWO;THREE;FOUR;FIVE;SIX;SEVEN;EIGHT;NINE"]),
  (0x1d7f6, "MATHEMATICAL MONOSPACE DIGIT ",
    ["ZERO;ONE;TWO;THREE;FOUR;FIVE;SIX;SEVEN;EIGHT;NINE"])]

end Tabstave.Text.Names

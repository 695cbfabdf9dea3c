/-!
# Words and entries that names share

What occurs in many names of characters and is written once, in the form that `Text.CharacterName`
describes: words, each behind its short form, and lists of entries with semicolons between them.
-/

namespace PacketSmith.Text.NameTree

/-- The words that have short forms. -/
def shortWords : String :=
  "a=ARROW aa=ARABIC-INDIC ab=ABBREVIATION ac=ACUTE ad=ARROWHEADS ae=ACCENT af=ALEF ag=ANGLE
ah=ARCHAIC ai=ANTICLOCKWISE aj=ARABIC ak=ACKNOWLEDGE al=ALTERNATE am=AMPERSAND an=ANUSVARA
ao=ARCHAION ap=APOSTROPHE aq=AIRPLANE ar=ARROWHEAD as=ASTERISK at=ALTERNATING au=ANUDATTA
av=AVAGRAHA aw=ARROWS ax=ALPHA ay=ANTIMONY az=ASH b=ABOVE ba=BAR bb=BARB bc=BACKSLASH bd=BUILDING
be=BETWEEN bf=BACK bg=BIRGA bh=BARRED bi=BARLINE bj=BOX bk=BACKHAND bl=BLACK bm=BAD bn=BENT bo=BLOCK
bp=BALLOON-SPOKED bq=BUBBLE br=BREVE bs=BESIDE bt=BOTTOM bu=BULLET bv=BOLD bw=BELT bx=BUTTON by=BETA
bz=BALL c=BRACKET ca=CAPITAL cb=CANDRABINDU cc=CIRCLED cd=CROSSED-TAIL ce=CENTRE cf=CENTRED
cg=CEILING ch=CHARACTER ci=CIRCUMFLEX cj=CONJOINED ck=CEDILLA cl=COLON cm=COMMA cn=CONSONANT
co=COMBINING cp=COMPOSITION cq=CARON cr=CROSSING cs=CROSS ct=CRESCENTS cu=CURL cv=CURVED
cw=CENTRALIZATION cx=CLOSED cy=CURLY cz=CORNER d=DOUBLE da=DIAERESIS db=DOUBLE-STRUCK dc=DESCENDING
dd=DANDA de=DOTTED df=DASIA dg=DIGIT dh=DASH di=DIAGONAL dj=DAGESH dk=DIVISION dl=DOTLESS dm=DIAMOND
dn=DOWN-POINTING do=DOWNWARDS dp=DIPLI dq=DISH dr=DIGRAPH ds=DESCENDER dt=DOTS du=DOUBLE-LINE
dv=DIVIDER dw=DOWN dx=DEGREES dy=DIALYTIKA dz=DOT e=BELOW ea=EQUALS eb=EIGHTEEN ec=ENCLOSURE ed=END
ee=EXTENDED ef=ESH2 eg=EIGHT eh=EIGHTHS ei=EIGHTH ej=EIGHTY ek=EKFONITIKON el=ELLIPSIS em=ELLIPSE
en=ENVELOPE eo=SVARITA ep=EPSILON eq=EQUAL er=EARTH es=EAST et=EXTENSION eu=EQUILATERAL
ev=EQUIVALENT ew=STATERS ex=EXCLAMATION ey=EYES ez=ELEVEN f=LEFT fa=FACE fb=FLATTENED fc=FATHA
fd=FOLDER fe=FINGER ff=FIFTY fg=FLAG fh=FISHHOOK fi=FINAL fj=FEMALE fk=FALLING fl=FILLER fm=FROM
fn=FINGERS fo=FOUR fp=FLEX fq=FLOOR fr=FRACTION fs=FLOURISH ft=FATHATAN fu=FULL fv=FIVE fw=FORWARD
fx=FOR fy=FLORETTE fz=FILL g=ORNAMENT ga=GRAVE gb=GHAIN gc=SUBUNIT gd=SHADE ge=GREEK gf=CONTAINING
gg=SPOKED gh=GHA gi=GISH gj=CROSSED gk=SHAD gl=GLOTTAL gm=GAMMA gn=GAN2 go=SHADOWED gp=GAETTA-PILLA
gq=SHESHIG gr=GREATER-THAN gs=SIGMA gt=GEMINATION gu=GUNU gv=SOUND gw=SUBSTITUTION gx=CANDRA
gy=GAYANUKITTA gz=GAR h=HORIZONTAL ha=HALF hb=HEARTS hc=HEAVEN hd=HEAD he=HEAVY hf=HUNDREDS
hg=HINGED hh=HIGH hi=HITTING hj=HORSE hk=HOOKED hl=HOLDING hm=HAMZA hn=HAND ho=HOOK hp=HALANTA
hq=HEADSTROKE hr=HARPOON hs=HANDS ht=HEART hu=HUNDRED hv=HIGH-REVERSED-9 hw=HARD hx=HORN hy=HYPHEN
hz=HAH i=RIGHTWARDS ia=ITALIC ib=INSERTION ic=INDICATOR id=INDEX ie=INTEGRAL if=INFINITY
ig=IDEOGRAPHIC ih=ICHOS ii=INITIAL ij=INTRODUCER ik=IMAGE il=ISOLATE im=IMPERFECTA in=INVERTED
io=INTERROBANG ip=INDEPENDENT iq=IOTA ir=ITERATION is=ISOLATED it=INTERSECTION iu=INSULAR iv=INVERSE
iw=ISOSCELES ix=IGI iy=IDENTIFICATION iz=INSIDE j=MIDDLE ja=JUSTIFICATION jb=CLOCKWISE jc=SECANT
jd=SUBJOINED je=JEEM jf=THIRDS jg=JEGOGAN jh=JHA ji=JIHVAMULIYA jj=CLICK jk=SHELL jl=TRESVETLAYA
jm=CORNERS jn=JOINED jo=JOINER jp=SEVENTY jq=SIDDHAM jr=CHECK js=CRESCENT jt=SCISSORS ju=SEMICIRCLE
jv=SEQUENTIAL jw=SIDEWAYS jx=SPREAD jy=TAK4 jz=THIRTY k=CIRCLE ka=KASKAL kb=KATO kc=KNUCKLE
kd=KNUCKLES ke=KAREN kf=KAF kg=KAPH kh=KHAH ki=KHAMTI kj=KIRGHIZ kk=KATAKANA kl=KLYUCHEVAYA
km=KHOKHLOM kn=KASRATAN ko=KOET kp=KOPPA kq=TONOS kr=KRYZHEM ks=KASRA kt=KATAKANA-HIRAGANA ku=KUSHU2
kv=KAVYKA kw=TSHEG kx=KUR ky=KLYUCHENEPOSTOYANNAYA kz=KHA l=LETTER la=LIGATURE lb=LAGAB lc=LOGICAL
ld=LAMEDH le=LEFTWARDS lf=LEFT-POINTING lg=LIGHT lh=LENGTHENER li=LITTLE lj=LOZENGE lk=LEAF ll=LLA
lm=LONSUM ln=LONG lo=LOWER lp=LOOP lq=LARGEST lr=LARGE ls=LESS-THAN lt=LENGTH lu=LENTICULAR
lv=LOGOGRAM lw=LOW lx=LATIN ly=LAGAR lz=LINE m=MARK ma=MACRON mb=MALE mc=MATHEMATICAL md=MEDIAL
me=MEDIUM mf=MOVEMENT-FLOORPLANE mg=MEDAL mh=MAHAPRANA mi=MINUS mj=MADDA mk=MAKSURA
ml=MULTIPLICATION mm=MEEM mn=MILLIONS mo=MODIFIER mp=MULTIPLE mq=MEASURE mr=MURDA ms=MUSICAL
mt=MOUNTAIN mu=MOUTH mv=MOVEMENT mw=MOVEMENT-WALLPLANE mx=MARKER my=MRACHNAYA mz=MOON n=TRIANGLE
na=NASALIZATION nb=NOTATION nc=NEO nd=NNA ne=NEPOSTOYANNAYA nf=SHA ng=NGA nh=NOTCHED ni=NINETY
nj=NOT nk=NUKTA nl=NORMAL nm=NUMERAL nn=NUN no=NOTEHEAD np=SIX nq=NOON nr=NORTH ns=NOTES nt=NEUTRAL
nu=NUMBER nv=NEGATIVE nw=CURVE nx=NINE ny=NYA nz=NOTE o=FORM oa=OVERLAPPING ob=OVERBAR oc=OCLOCK
od=OVERLAID oe=OPEN of=OLD og=OGONEK oh=ONE-HUNDRED-AND-SIXTIETH oi=OBLIQUE oj=SASAK ok=CANCELLATION
ol=OVERLINE om=OMEGA on=ONE oo=OPPOSING op=OPERATOR oq=CHARIOT or=OVERLAY os=OPPOSITION ot=OUT
ou=OUTLINED ov=OVER ow=CIRCLES ox=CONTACT oy=DIGAMMA oz=OPENING p=PLUS pa=PARENTHESIS pb=PIECE
pc=PLACEHOLDER pd=PRODUCT pe=PERISPOMENI pf=POINTER pg=PARAGRAPH ph=PRISHTHAMATRA pi=POINTED
pj=PINWHEEL pk=PENTAGON pl=PLASTICS pm=PRIME pn=POINT po=POINTING pp=PARAGRAPHOS pq=POSITION
pr=PROSGEGRAMMENI ps=PERSON pt=PENTAGRAM pu=PAP pv=PHA pw=POWERS px=PSILI py=PROSTAYA pz=PARALLEL
q=AND qa=QUARTER qb=SALTIRE qc=SEMICIRCULAR qd=QUADRANT qe=QUESTION qf=QAF qg=TWELVE qh=CHA qi=THE
qj=APPROXIMATE qk=CURRENCY ql=DODEKATA qm=SHAFT qn=SHIN qo=SUBGROUP qp=QUADRUPLE qq=TEXT qr=QUARTERS
qs=TOGETHER qt=SHE qu=QUOTATION qv=AELA-PILLA qw=DALETH qx=DRAGON qy=LUNATE qz=SILHOUETTE r=RIGHT
ra=RAISED rb=RELATION rc=RECTANGLE rd=ROTUNDA re=REVERSED rf=ROTATION-FLOORPLANE rg=RIGHT-POINTING
rh=RESH ri=RING rj=REPEAT rk=ROC rl=RADICAL rm=RIGHT-SHADOWED rn=ROUND ro=ROTATED rp=RUPEE
rq=REPETITION rr=RRA rs=RISING rt=RETROFLEX ru=ROUNDED rv=REVERSE rw=ROTATION-WALLPLANE rx=RTAGS
ry=RECYCLING rz=REST s=SIGN sa=STAR sb=SUBSET sc=SECTION sd=SIDE se=SEPARATOR sf=STAFF sg=SMILING
sh=SHORT si=SINGLE sj=SOUTH sk=SLASH sl=SLANTED sm=SEMICOLON sn=SANS-SERIF so=SOLIDUS sp=SUPERSCRIPT
sq=SQUARE sr=SCRIPT ss=SUPERSET st=STRAIGHT su=SQUARED sv=SEVEN sw=SVETLAYA sx=SPACE sy=SYLLABLE
sz=STOP t=STROKE ta=TRIANGULAR tb=TABULATION tc=TACK td=TURNED te=TENU tf=TWELFTHS tg=THROUGH
th=THREE ti=TILDE tj=TORTOISE tk=THETA tl=TAIL tm=TALENTS tn=TONE to=THOUSAND tp=TRIPLE tq=TEN
tr=TRIANGLE-HEADED ts=TEARDROP-SPOKED tt=TURNSTILE tu=THUMB tv=THIRD tw=TWO tx=TEDUNG ty=TWENTY
tz=THOUSANDS u=PUNCTUATION ua=UPADHMANIYA ub=UMBRELLA uc=STEM ud=UNDER ue=UPPER uf=TONGUE ug=TOP
uh=U-SHAPED ui=UNION uj=TREE uk=TWO-HEADED ul=ALEPH um=CARET un=UNDERBAR uo=UP-POINTING up=UPWARDS
uq=DAMMA ur=DELTA us=UPSILON ut=SATANGA uu=SCHWA uv=SQUARES uw=SSA ux=STILE uy=TILTING uz=TRAFFIC
v=VERTICAL va=VARIANT vb=AS-SALAAM vc=VOCALIC vd=VOICED ve=VERTICALLY vf=DELIMITER vg=LEG
vh=LIGHTNING vi=VIRAMA vj=SIXTEENTH vk=SUBSCRIPT vl=SUMMATION vm=ANTIRESTRICTION vn=BLACK-FEATHERED
vo=VOWEL vp=CLUSTER-INITIAL vq=THA vr=VRACHY vs=VISARGA vt=ALAYHE vu=ALMOST vv=ASH2 vw=AYIN vx=BETH
vy=VERY vz=BOTTLE w=WITH wa=WAVE wb=CIRCULAR wc=CLOUD wd=COMPUTER we=WEST wf=COPPER wg=WIGGLY
wh=WHITE wi=WRIST wj=COVERING wk=CUBED wl=WHEELCHAIR wm=WOMAN wn=WIND wo=WORD wp=CUPPED wq=CYRILLIC
wr=WRINKLED ws=WESTERN wt=WITHIN wu=WITHOUT wv=WAVY ww=WAW wx=DAGGER wy=WAW-AYIN-RESH wz=WATER
x=TIMES xa=DAMMATAN xb=DASHED xc=DHA xd=DOLLAR xe=FORTY xf=FROWNING xg=LEERAEWA xh=LLLA xi=LOCATION
xj=MEM xk=MEMBER xl=MGO xm=MONKEY xn=MOUSE xo=MULTIMAP xp=PERFECTA xq=SANDHI xr=SCREEN xs=SECOND
xt=SHADDA xu=SHAN xv=SHOE xw=SHOULDER xx=SIXTY xy=SQUIGGLE xz=START y=SYMBOL ya=YANG
yb=TIGHTLY-CLOSED yc=TOPBAR yd=TUG2 ye=YEH yf=AIN yg=APPROXIMATELY yh=ARC yi=BHA yj=DROP-SHADOWED
yk=INTERPOLATION yl=LAM ym=PARESTIGMENON yn=PREPONDERANCE yo=REDUPLICATION yp=YPOGEGRAMMENI
yq=TETARTIMORION yr=TRANSPOSITION ys=YUS yt=ANTARGOMUKHA yu=ARDHAVISARGA yv=AREA yw=ASTROLOGICAL
yx=CHRONON yy=CLEF yz=CLOSING z=SMALL za=ZAPYATAYA zb=CONTROL zc=CURRENT zd=DIFFERENTIAL ze=ZERO
zf=DIVIDED zg=DOUBLE-LINED zh=DOUBLED zi=ZIGZAG zj=DVOECHELNAYA zk=FEED zl=FIFTEEN zm=FISH
zn=FLEURON zo=HEH zp=ZAPYATOY zq=LETTERS zr=LIPS zs=MACHINE zt=PALAUNG zu=PICTURE zv=RAYS zw=RHO
zx=SEEN zy=ZAYIN zz=SHAKING"

/-- The entries that stand side by side in several places. -/
def sharedEntries : String :=
  "ii_o md_o;b e;f r;A E I O U;AA AI I II U UU;th tw;eg fv fo nx on sv np &5;dg(ze &6);dz_b;da; fi_o
ii_o;cm fu_sz;hu to;A KA LA MA NA PA;is_o;fi_o &14;ii_o &14;rt_ho;BA DA GA HA KA MA NA PA RA SA TA
WA YA;lr me z;jh ng nf uw VA YA;ac ga;ds;af_mk(&15)ye(&15);d si;ci;dz_e;k sq; PALATAL_ho;af_mk_fi_o
ye_fi_o;CLUBS DIAMONDS hb SPADES;w_dj;OXIA VARIA;j_ti &28;cq ck lz_e; ab_s;w_t;bl wh;dz(&1);t
&38;cb;h;tq ty;ul vx GIMEL HE::TH kg ld nn PE SA:DHE:MEKH qn TAW YODH;dd d_dd;ao nc;ho t;gr ls;mp
si;qe_m;sc_m;hu[to]to;BAMBOOS CHARACTERS ow;av nk &40;mm_ii_o;CA JA ng ny nf;DZA TS:A:HA ZA
ZHA;di_t;bb_a he_bb_a lg_bb_a me_bb_a vy_he_bb_a; f_ha_bl r_ha_bl;ex_m &49;BA qh DA HA kz pv SA TA
vq;yi CA DD:A:HA xc GA gh JA nd ny RA TT:A:HA &13 &61;on[hu]&42;eq_TO ev_TO;w_ye_fi_o;B D K M N P Q
S T;C F G H J L R V W X Y Z &3 &66;ci_e;fm_ba TO_ba;oi_t;ax by CHI ur ep ETA gm iq KAPPA LAMDA MU NU
om OMICRON P:HI:I:SI zw gs TAU us XI ZETA;eb ez zl FOURTEEN NINETEEN SEVENTEEN SIXTEEN THIRTEEN
qg;cy_c pa tj_jk_c;d_v_t v_t;le_a i_a;do up;th_dt_b;an vs;vi &78;q(ho_b ti &21 &26);vw qw xj QOPH rh
TETH ww zy;dq GESH2 SHAR2 U[va_o];pi_bl_sa gg_as;hi(CHEST FRONT_WALL); dm lj sq;vc(L LL R RR);AU E O
&4 &86;le i;hh_tn lw_tn;OXIA[q_yp]pe[q_yp]VARIA[q_yp]yp;ro(ni_dx tw_hu_jp_dx);ej ff xe ni jp xx jz
&42;de(LEFT-STEM_tn_ba tn_ba)LEFT-STEM_tn_ba tn_ba;zo(&0)nq_fi_o REH_fi_o ZAIN_fi_o;NO_tu tu(fw
sd);vu_eq_TO ti_op;ca(&67)z(&67);xb_a PAIRED_aw;bl_sa pj_sa;f_pa r_pa;cq
ci[&80]da[q_ma]dz(b[q_ma]e)ho_b in_br &21;AEN AN BAN C:AN:HAR:HIN:IL DON EN GAN GHAN H:AE:AR:E:IE:OE
IN JHAN JIL KAN KHAR LAS MAN NAR ON PAR PHAR QAR RAE SAN qn TA:N:R UN VIN WE XAN YN ZEN ZHAR;eu_ar
lr_n_ar me_n_ar nh_tl z(eu_ar n_ar);yf BEH DA:D:L FEH gb hz kh yl mm nq qf REH SAD T:AH:EH:HAL:HEH
ww ye ZA:H:IN;br cq d_ga ho_b in_br og ti[e]&21;fv_gg_as ge_cs qb wh(&27);BE CE DE DHE FE JE ME NE
PE RE SE qt TE qi VE XE ZE;lx(ca_l(&67)z_l(&67));eu_ar lr_eu_ar;ob v_ba_AT_ed_OF_h_t; ci_ae ga_ae
v_lz;cy_c pa sq_c;do_a up_a;f_qd r_qd;AZU BIG_ys BUKY CHRIVI DJERVI DOBRO FITA FRITU GLAGOLI HERU I
ii_IZHE IOTATED(BIG_ys z_ys)IZHE KAKO LJUDIJE MYSLITE NASHI ONU POKOJI RITSI SH:A:TA SLOVO TSI
TVRIDO UKU VEDE Y:ATI:ERI:ERU:ESTU:O:U ZEMLJA ZHIVETE;am as cl COMMERCIAL_AT xd_s ea_s gr_s
HYPHEN-MINUS ls_s nu_s PERCENT_s p_s rv_so sm ti &11 &60;bl(a cc_wh_a)COMPRESSED_a FINGER-POST_a
he(a COMPRESSED_a)qp_a ROCKET sn_a su_a n_ar tw_HEADED_a &98 ;DI DLA G:A:E:I:O:U HI I L:A:E:I:O:U
M:A:E:I:O:U N:A:E:I:O:U S:A:E:I:O:U TL:A:E:I:O:U TS:A:E:I:O:U W:A:E:I:O:U Y:A:E:I:O:U;df[q(pe
&32)]px[q(pe &32)]kq &32;fv_eh_bo on(ei_bo qa_bo)sv_eh_bo th(eh_bo qr_bo)ta_on_qa_bo;d_q(h_si f_si
r_si)si_q(h_d f_d r_d);bv_qm he_qm me_qm NARROW_qm vy_he_qm;H:E:I:O:U K:E:I:O:U M:E:I:O:U N:E:I:O:U
R:E:I:O:U S:E:I:O:U T:E:I:O:U WO YO YU;B:E:I:O:U D:E:I:O:U G:E:I:O:U P:E:I:O:U VU WE WI Z:A:E:I:O:U
&123; cm_qu_m_g td_cm_qu_m_g;CHO CO DO KHO KO LO MO N:GO:O:YO PHO PO RO THO TO VO YO;yf DAD gb hz je
kh nq qf S:AD:EEN:HEEN ye;ee_aa_dg(th_b tw_b);AE EO EU OE W:A:AE:E:EO:I Y:A:AE:E:EO:I:O:U; df[q(
&90)]px[q(&90)]kq;de_qy_gs_y qy_gs_y;BA DA FA HA KA LA MA NA ng PA QA SA TA VA XA;bl_a sn_a wh_a;d_a
po(BUD lk VINE_lk)tr_a[TO_ba]&133;SEMI-VOICED_gv_m vd_gv_m ;BISHOP[&91]
EQUIHOPPER[ro_ni_dx]KING[&91]KNIGHT[ro(FORTY-FIVE_dx ni_dx on_hu_THIRTY-FIVE_dx th_hu_zl_dx
tw_hu(jp_dx TWENTY-FIVE_dx))]PAWN[&91]QUEEN[&91]ROOK[&91]td(BISHOP KING KNIGHT PAWN QUEEN ROOK)
;ANGER_bq a_w(cc_p z_k)bl(lu_c tj_jk_c)c:g:z_c:y_c[lo_ho j_pb ue_ho]de_gw_c zm_tl fq
hn_TELEPHONE_RECEIVER lw_PARAPHRASE_c nl_FACTOR_SEMIDIRECT_pd OUTER_JOIN pa[et lo_ho ue_ho]
ra_OMISSION_c S:-SHAPED_BAG_vf:EMIDIRECT_pd:IDEWAYS_U_c si_qu_m SPEECH_bq sq_c[et lo_cz ue_cz w(d_t
QUILL t TICK_IN(bt_cz ug_cz)un)]gw_c tc tv_wh_r_po_id THOUGHT_bq tj_jk_c yr_c v(ba_w_QUILL
bj_lz)wh(cz_c lu_c sq_c &73)wg_FENCE &120;ARROW-TAIL BACK-TILTED_go_wh_a d(a[fm_ba w(t
v_t)]ARROW-TAIL dh_a)FRONT-TILTED_go_wh_a hn LEFT-SHADED_wh_a OPEN-HEADED_a RIGHT-SHADED_wh_a xy_a
ug_SHADED_wh_a tp(a dh_a)uk(a( fm_ba w(tl[w(&74)]n_ad &74))tp_dh_a)wa_a &117;AA AE[w(ac
ma)]A:NGLICANA_W:O:U:V[w_h_ba]AY by BROKEN_L CON CUATRILLO[w_cm]EGYPTOLOGICAL(yf af)ET::H g:m:h:l(A
I sz U)ha_H iu(D F G R S T)IS LJ j_SCOTS_S MIDDLE-WELSH(LL V)NJ OI of_POLISH_O om OO OU
S:ALTILLO:HARP_S:IGMOID_S THORN[w_t[tg_ds]] tn(fv np tw)TRESILLO TZ V:END:ISIGOTHIC_Z:OLAPUK(AE OE
UE)VY YOGH;CHESS(KNIGHT-:BISHOP:QUEEN:ROOK &136)CLUB_SUIT DRAUGHTS(KING MAN)fy hw_jk_FLOPPY_DISK
ht[SUIT]HEXAGON h_em HOURGLASS f(LANE_MERGE po(bk_id id))NIB PARALLELOGRAM PENNANT pk qe_m_g rc
r_po(bk_id id)jt SHOGI_pb sg_fa SPADE_SUIT sa
T:ELEPHONE:OUCHTONE_TELEPHONE:WO-WAY_f_WAY_uz;CW:A:AA:E:I:II:O:OO FWAA KW:A:AA:E:I:II:O:OO
L::A:AA:E:O:OO LW:A:AA:E:I:II:O:OO M MW:A:AA:E:I:II:O:OO NW:A:AA:E P PW:A:AA:E:I:II:O:OO
R::A:E:I:O:WAA SHW:A:AA:E:I:II:O:OO SW:A:AA:E:I:II:O:OO THWAA TW:A:AA:E:I:II tw TWOO
W:A:AA:E:I:II:O:OO Y YW:A:AA:E:I:II:O:OO;AKHMIMIC_KHEI ALFA BOHAIRIC_KHEI
CR:OSSED_SHEI:YPTOGRAMMIC(EIE GANGIA NI SHEI)D:ALDA:EI:IALECT-P(af HORI KAPA NI)EIE FEI FI gm GANGIA
HATE HORI IAUDA K:APA:HEI:HI:SI L-SHAPED_HA LAULA MI NI O of(COPTIC(yf DJA ESH GANGIA H:A:AT:EI:ORI
OOU SH:EI:IMA)NUBIAN(NGI NYI SHIMA WAU))OOU PI PSI RO S:AMPI:HEI:HIMA:IMA:OU TAU THETHE UA VIDA
ZATA;bo_di(lo(ce_TO(lo_j_r ue(j_r r))f_TO(lo_j_r ue(ce j_r))j_f_TO_ue(ce j_r r)) ue_j_f_TO_ue(ce
r))cz_w_dz qd_wb_yh n ta_me_gd;bo_di(lo_j_f_TO_lo(ce r)ue(ce_TO(lo(j_r r) ue_j_r)f_TO(lo(ce
j_r)ue_j_r)j_f_TO_lo(ce j_r r)))PENCIL qd_wb_yh n ta_me_gd; by CHI ur ep[w(df[q(&32)]px[q(&32)]kq
&32)]gm HETA KAPPA LAMDA MU NU OMICRON[w(df [q(&32)]px[q( &32)]kq &32)]P:AMPHYLIAN_oy:HI:I:SI
S:AN:HO:IGMA TAU tk XI ZETA;br cq ci[e ]da[q(cq ma &21) e]d(&21)ho_b hx[&80]in_br ma[q_da]og ri_b t
ti[q_ac e]&21 &26;CHIEUCH CIEUC HIEUH IEUNG KHIEUKH KIYEOK MIEUM NIEUN::-CIEUC:-HIEUH PHIEUPH
PIEUP::-SIOS RIEUL::-HIEUH:-KIYEOK:-MIEUM:-PIEUP:-SIOS SIOS SSANG:CIEUC:KIYEOK:PIEUP:SIOS:TIKEUT
THIEUTH TIKEUT;KAPYEOUN:MIEUM:PHIEUPH:PIEUP MIEUM-:PIEUP:SIOS NIEUN-:SIOS:TIKEUT PANSIOS
PIEUP-:CIEUC:SIOS-TIKEUT:TIKEUT RIEUL-TIKEUT SIOS-:CIEUC:KIYEOK:PIEUP:TIKEUT SSANG:IEUNG:NIEUN
YE:ORINHIEUH:SIEUNG &147;IEUNG-KIYEOK KAPYEOUNRIEUL MIEUM-KIYEOK NIEUN-KIYEOK PHIEUPH-PIEUP
PIEUP-:CHIEUCH:HIEUH:PHIEUPH RIEUL-:KAPYEOUNPIEUP:KHIEUKH:NIEUN:SSANGKIYEOK
SIOS-:CHIEUCH:HIEUH:MIEUM:RIEUL:THIEUTH SSANGRIEUL TIKEUT-:CIEUC:KIYEOK:PIEUP:RIEUL:SIOS &148; BBUT
BUR C:HE:IP:UOP CY::P:T DDUR DU G:A:EP:GOP:GUO:OT HMO HX:IT:OP:UO JJ:IE:UT:Y JO KE KIT LI::E LYR MI
MOP N:BIE:YIP:YOP:ZUP OP PUT PYT QOT SH:AT:OP:UR:Y SSI TAT TU VEP VUR WO YIT YO
Z:A:OT:UP:UR:ZIET;A:A:K:MB q CLOSE_E E:B:C:CH:CS:D:E:F:G:GY:H:J:K:L:LY:M:MP EN::C:T:T-SHAPED_s:Y
E:P:R:S:SZ:T:TY:V:Z:ZS II NIKOLSBURG(OE UE)OEE OO RUDIMENTA(OE UE)sh_ER U:NK:S:U &3;EE FOM
K:EN:ET:O:PA:U:YEE LI LOQ M::BAA:BEN:EEEE:O N:DAA:GGA:GKWAEN:I:JAEM:JUAE:SHA:TEE:U:UAE:YI PE:E:UX
PUAE RE:E:N:UX RI:EE:I RU S:AMBA:EUX:HII:HO:HU:I:UU TA:A:E TET U WA WUE YA YOQ;ANCORA d_a
hr_w_bb(f(bs(do_hr_w_bb_r up_hr_w_bb_r)&69)r(&69)&88)tp_a;q(nj_qj
SINGLE-LINE_nj_eq_TO)BUT_nj(&64)cx_BY_nw[ b_sl_eq]ov_eq_TO s w(k_iz dz qe_m_b);d_dh(v &41)dw[q(&2
&41)]qp_dh(v &41)r tp_dh(v &41)v[q(&2 &41)] ;B:AMBOO:LUE:OLT_OF_CLOTH:ONE C:ITY:LIFF:LOTHES:OW
D:EATH:IVINATION:OG EYE FIRE FOOT GHOST h:n:d:x JADE MEAT mz MORTAR of RA:IN:P S:EAL:HEEP:ILK:UN
T:ABLE:IGER:URTLE;b(vu_eq_TO ea_s nj( vu_eq_TO eq_TO)SINGLE-LINE(ea_s nj_eq_TO))BUT_nj_ev_TO
OR(&64)ud_rb;OF[b(ea_s nj_eq_TO &96)OR_eq_TO[w_dz_b]w_nj_eq_TO]w(dz ml_s_e p_s_e);br
d(&21)hx[&80]ln_t_or lp ma[q(&21)]og[q_ma]t[ q_ac]ti[q(ac ma &9)];bt_ha_O ur
HENG[w_ho]LEZH[w_rt_ho]LS_dr LZ_dr PHI RAMS_hx
T:C_dr_w_cu:OP_ha_O:S_dr[w_rt_ho];ac[q_dz_b]cq[q_dz_b]ck cm_e dz(b e[q_dz_b])ho sh_t_or SWASH_tl &25
&70;KIYEOK-SIOS MIEUM-PANSIOS NIEUN-PANSIOS
RIEUL-:KIYEOK-SIOS:PANSIOS:PHIEUPH:PIEUP-SIOS:THIEUTH:YEORINHIEUH YESIEUNG-:PANSIOS:SIOS; CHIEUCH[A]
HIEUH[A]KHIEUKH[A]KIYEOK[A]MIEUM[A]NIEUN[A]PHIEUPH[A]PIEUP[A]RIEUL[A]SIOS[A]THIEUTH[A ]TIKEUT[A];bj(
&19)cs d(at[wi_fp]st wi_fp)JAW PEAKS(&19)si(st(lq &19)wi_fp)zi(&19); ALLIANCE CONGRATULATION er
ENTERPRISE FI:NANCIAL:RE HAVE LABOR METAL mz NAME RESOURCE rz S:OCIETY:PECIAL:TOCK:TUDY:UN:UPERVISE
tq wz WOOD;AY BEE CHEE DEE E:F:L:M:N:NG:R:S:SH:TH:W GAY H JEE KAY ln(A AH E I O OO)OI OW PEE sh(A AH
E I O OO)TEE THEE VEE WU YEE ZEE ZHEE;dg(&6)nu(eg_hu fv_hu fo_hu nx_hu on_hu sv_hu np_hu th_hu tw_hu
&92);AYB BEN C:A:HA:HEH:O DA E:CH:H:T FEH GHAD GIM HO INI JA JHEH KE:H:N LIWN MEN NOW OH PEH PIWR RA
REH SEH nf TIWN TO VEW VO XEH YIWN ZA ZHE;ff[to]xe[
to]jp[to]xx[to]tq[to]jz[to]ty[to];eg[&12]ej[to]fv[&12]fo[&12]nx[&12 ]ni[to]on[&12]sv[
&12]np[&12]th[&12]tw[&12]&169;GROMNAYA[w_si_za]GROMOKRYZHEVAYA[POVODNAYA]GROMOPOVODNAYA[w(d_za
si_za)]POVODNAYA;cx_k_a CONTOUR_ie do_q_up_oe_k_aw GAPPED_k_a oe_k_a ug_ju_a;ALIF BA BHE CHI DAALI
xc E FA GA GBE HA I JIIM kf kz KPO LAAM MIIM NHA nn ny O PE QAAF RA nf SINNYIIYHE TU U VA ww YA YHE
ZAL;BB:A:E:I:O:U CH:A:O:U DD:A:E:I:O:U GG:A:E:I:O:U Q:I:O:U SS:A:E:O:U XI XO ZZ:A:E:I:O:U;DEE GEE
HEE J:A:E:EE:I:O:U LEE MEE NEE PEE REE SEE SH:A:E:EE:I:O:U TH:A:E:EE:I:O:U WEE YEE ZEE;BEE
C:A:E:EE:I:O:U F:A:E:EE:I:O:U KEE L:A:E:I:O:U ny NY:E:EE:I:O:U TEE V:A:E:EE:I:O WU YE YI
ZH:A:E:EE:I:O:U &175;A::M:NG:T BU DA E EN:N:Y GA H:AR:IYO:OLO:ORR II KO NGAA NUNG O ODD PU SII SSUU
TTE UC UU VIYO WI Y:A:O:U:UJ;A D:A:E:O:U:V E GV H:A:E:NA:O:U:V KA LV MV NAH NV O QU:A:E:I:O:U:V S SV
T:A:E:I:LV:SV U V WV YV; AH AI::N BRA qh xc E EH:CHA:KA:PA:TA:TSA EIN gh HA HYA I kz KYA O OIN SA nf
TA TS:A:HA U WA ZA ZHA;pi(RECTILINEAR_bl_sa &99)gg_as ts_PROPELLER_as;CAUDATE_CHRIVI DZELO IZHITSA
LATINATE_MYSLITE OTU PE SHTAPIC z_ys[w_tl]SPIDERY_HA TROKUTASTI_A;BIRD CART qx EAT EVEN F:ISH:LY:ROG
GATE GOLD hj lk S:ALT:EE:HELL:PEECH TANNED_LEATHER TOOTH wn;APLI_DYO_ql DIGRAMMOS_EX_ql
MONOGRAMMOS_TESSERA_ql TRI:GRAMMOS_OKTO_ql:TIMORION;ag_c d_ag_c fb_pa wh(sq_c tj_jk_c);BAA CAA CHAA
DAA DD:AA:HAA GAA HAA JAA KAA LAA MAA NAA NYAA PAA PHAA RAA SAA T:AA:HAA:THAA VAA WAA YAA;BE BIG_ys
DE DJERV EF FITA hw_s li_ys MONOGRAPH_UK SH:A:CHA TSE UKRAINIAN_IE VE Y:AT:I:U;A[w(br
&9)]ABKHASIAN(CHE[w_ds]DZE HA)ALEUT_KA bh_O[w_da]
B:ASHKIR_KA:INOCULAR_O:LENDED_ys:ROAD_om:YELORUSSIAN-UKRAINIAN_I CCHE CHE[w(v_t &9 &22)]cx_li_ys
gj_O DCHE DJE d(MONOCULAR_O O)DWE DZ:E:ELO:HE:WE:ZE:ZHE E[w_da ]EL[w(ho j_ho tl &22)]EM[w_tl]
EN[w(ho f_ho j_ho tl &22)]ER[w_TICK]ES[w_ds]GHE[w(j_ho t[q_ho]UPTURN &22)]GJE HA[w(&46 &22)]HWE I[w(
ga ma &9)]IE[w(br ga)]IO iq IOTIFIED(A BIG_ys cx_li_ys E li_ys YAT)IZHITSA[w_d_ga_ae]JE KA[w(v_t &46
&22)]K:HAKASSIAN_CHE:JE:OMI(D:E:JE:ZJE LJE NJE SJE TJE ZJE)kp KSI LHA LJE MONOCULAR_O nt_YER NJE
O[w_da]om[w_TITLO]OT PE[w(j_ho &22)]PSI QA re(DZE TSE YU ZE)RHA rn_om uu[w_da]SEMISOFT_s
SHHA[w_ds]sh(I[w_tl]U)SHWE SOFT(DE EL EM s)st_U[&36]TCHE TE[w(j_ho &22)]TS:HE:SE:WE TWE U[w(d_ac ma
&9)]UK WE YA::E YERU[w(bf_YER &9)]YN ZE[w(&9 &22)]ZEMLYA ZHE[w(br &9 &22)]ZHWE &186;E I K:I:O:U
L:E:O:U M:E:O:U N:E:I:O:U O P:I:O:U R:A:E:O:U S:A:E:I:O:U T:A:E:I:O WA WE ZO;ep_y KAPPA_y NABLA
P:ARTIAL_zd:HI_y:I_y zw_y tk_y;ca(tk[y]&67 &71)&189;ac dz(b e[q_ma])d_ga in_br t tl &70;A::B:D
AE:B:G:K:N:T:Y A:G:L:Q:R az AT AY E:C:NC:NT:NY:SH:Z I IQ OE::K OQ;br[&80]d_ga ma og ri(b[ q_ac]e)t
ti;ag_c bl_lu_c cz_c d_ag_c sq_c;lo_rm_wh_i_a ue_rm_wh_i_a;d_n[ w_v_ba]iw_r_n pf z_n;rf(at &24)rw(at
&24)zz;KAPYEOUNSSANGPIEUP PIEUP-:KIYEOK:SIOS-KIYEOK:THIEUTH SIOS-NIEUN SSANGHIEUH;w(dy[q(pe kq
&32)]ma pe vr &119);TO_ba w( d(h_t v_t)ln_TIP(&76)&122); BAYANNA CAYANNA DAYANNA DDAYANNA GAYANNA
JAYANNA KAYANNA PAYANNA TAYANNA TTAYANNA;fr(on(ei ha qa vj)th(qr SIXTEENTHS));ag_c cv_ag_c d_ag_qu_m
MAGNIFYING_GLASS;BW:EE:I FW:EE:I GW:E:EE:I HHWA KW:E:EE:I MW:EE:I PW:EE:I QW:E:EE:I;dw_po_id f_po_id
r_po_id UP_po_id;OXIA[ q_pr]pe[q_pr]pr VARIA[q_pr];q(&206);df[&207]pr px[&207]kq &32"

end PacketSmith.Text.NameTree

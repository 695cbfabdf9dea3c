/-!
# Names of characters that start with `H` to `K`

The names as a tree of words, in the form that `Text.CharacterName` describes.
-/

namespace PacketSmith.Text.NameTree

/-- The names that start with `H`. -/
def namesInH : String :=
  "HA:DES:IR_sx:IRCUT:LFWIDTH(bl_sq FORMS_lg_v HANGUL(fl l(KIYEOK-SIOS RIEUL-:PHIEUPH:THIEUTH &147
&3 &129))ig(&11)kk(l(HA KA MA N NA RA SA z(TU Y:A:O:U &3)TA WA YA &3 &123)j_dz &135)
kt_PROLONGED_gv_m f_cz_c r_cz_c wh_k &75 &113)HAM:BURGER:MER[q(PICK SICKLE WRENCH)]HAMS:A:TER_fa
hn_w_id(q_j_fn_gj fe_q_tu_gj)HAN:DBAG:DBALL:DSHAKE:GUL(CHOSEONG(
CEONGCHIEUM:CHIEUCH:CIEUC:SIOS:SSANGCIEUC:SSANGSIOS CHIEUCH-:HIEUH:KHIEUKH
CHITUEUM:CHIEUCH:CIEUC:SIOS:SSANGCIEUC:SSANGSIOS CIEUC-IEUNG fl HIEUH-SIOS
IEUNG-:CHIEUCH:CIEUC:HIEUH:MIEUM:PANSIOS:PHIEUPH:PIEUP:RIEUL:SIOS:THIEUTH:TIKEUT KIYEOK-TIKEUT
MIEUM-TIKEUT NIEUN-PIEUP PHIEUPH-HIEUH
PIEUP-:KHIEUKH:NIEUN:SIOS-CIEUC:SIOS-PIEUP:SIOS-THIEUTH:SSANGSIOS
RIEUL-:CIEUC:SSANGPIEUP:SSANGTIKEUT SIOS-:IEUNG:KHIEUKH:PHIEUPH:PIEUP-KIYEOK:SSANGSIOS
SSANG:CIEUC-HIEUH:SIOS-PIEUP:THIEUTH:YEORINHIEUH TIKEUT-MIEUM &149 &198)d_dz_tn_m fl JONGSEONG(
CIEUC-:PIEUP:SSANGPIEUP HIEUH-:MIEUM:NIEUN:PIEUP:RIEUL IEUNG-:KHIEUKH:SSANGKIYEOK
KIYEOK-:CHIEUCH:HIEUH:KHIEUKH:NIEUN:PIEUP:RIEUL:SIOS-KIYEOK
MIEUM-:CHIEUCH:CIEUC:HIEUH:NIEUN:PIEUP-SIOS:RIEUL:SSANGNIEUN:SSANGSIOS NIEUN-:CHIEUCH:RIEUL:THIEUTH
PANSIOS-:KAPYEOUNPIEUP:PIEUP PHIEUPH-:SIOS:THIEUTH PIEUP-:MIEUM:RIEUL:RIEUL-PHIEUPH
RIEUL-KIYEOK-HIEUH RIEUL-MIEUM-:HIEUH:KIYEOK:SIOS RIEUL-PIEUP-:HIEUH:PHIEUPH:TIKEUT
RIEUL-:SSANGSIOS:TIKEUT-HIEUH:YEORINHIEUH-HIEUH:YESIEUNG SIOS-:KAPYEOUNPIEUP:PANSIOS
SSANG:MIEUM:RIEUL-KHIEUKH:SIOS-KIYEOK:SIOS-TIKEUT:TIKEUT-PIEUP:YESIEUNG
TIKEUT-:CHIEUCH:SIOS-KIYEOK:THIEUTH YESIEUNG-:HIEUH:KHIEUKH:KIYEOK:MIEUM:SSANGKIYEOK &149 &162)
JUNGSEONG(A-:EU:O:U ARAEA::-A:-E:-EO:-I:-U EO-:EU:O:U EU-:A:E:EO:EU:O:U fl I-:A:ARAEA:EU:I:O:O-I:U
I-Y:A:A-O:AE:E:EO:O:U O-:E:EO:O:O-I:U O-Y:A:AE:E:EO SSANGARAEA U-:A:AE:EO-EU:I-I:U:YE:YEO YA-:O:U:YO
YEO-:O:U:YA YI-U YO-:A:AE:EO:I:O:YA:YAE:YEO YU-:A:AE:E:EO:I:O:U:YE:YEO &3 &129)l(ARAEA::E
YO-:I:YA:YAE YU-:I:YE:YEO &148 &3 &162 &129 &198)si_dz_tn_m)HANGZHOU_nm(jz &6 &42)
HANIFI_ROHINGYA(l(A DDA FA kz KINNA(WA YA)LA rr TTA VA ZA &18 &55)m(NA_KHONNA SAKIN)s(HARBAHAY
TA:HALA:NA:SSI)vo(&3)&7)HANUNOO(l(A I LA ng U &18)s_PAMUDPOD vo_s(I U))
HA:PPY_ps_RAISING_on_hn:RD_DISK:TCHING_CHICK:TRAN(l(AYN DALETH-RESH xj QOPH TETH ww ZAYN &43)nu(fv
&63))HEAD:PHONE:STONE[GRAVEYARD_y]HEAR-NO-EVIL_xm ht(DECORATION hs w(a RIBBON TIP_ON_qi_f))he( am_g
a_qm_WIDTH(on[ha tv]tw_jf)as BALLOT_X bl(cv(do_q_i_a up_q_i_a)ht)vn(nr_es_a i_a
sj_es_a)CHE:CK_m:VRON_SNOWFLAKE k[w(k_iz t_q_tw_dt_b)]cc_qb CONCAVE-POINTED_bl_i_a xb_tr_i_a dk_s
xd_s d(&125)do_a_w(&109)eg(&180)ea_s ex_m(g y)fv(&83)fo_bp_as ge_cs ht_ex_m_g h_fz io_g
l:r_k:x_cs:f_ag(c_g qu_m_g)le_a_w(&109)la_oe_ET_g lw(d_cm_qu_m_g si_cm_qu_m_g)mi_s ml_X nr(es(a
po(BUD VINE_lk))we_po(BUD VINE_lk))oe_ce_cs ou_bl_sa OVAL_w_OVAL_iz p_s rg_ag(c_g qu_m_g)
i_a[w(&109)]ROUND-TIPPED_i_a qb s:n_io_g:r_la_ET_g:i(&125)np(&83)sj(es(a po(BUD VINE_lk)) we_po(BUD
VINE_lk))SPARKLE TEARDROP-SHANKED_i_a ts(as pj_as)tr_i_a qg_pi(&99)up_a_w(&109)v_ba WEDGE-TAILED_i_a
wh(dn_n &27)WIDE-HEADED_i_a &195)HEBREW(ae(ATNAH_HAFUKH DARGA DEHI ETNAHTA GERESH[ MUQDAM]GERSHAYIM
ILUY MAHAPAKH MERKHA[KEFULA]MUNAH OLE PA:SHTA:ZER QA:DMA:RNEY_PARA REVIA SEGOL SHALSHELET
TELISHA(GEDOLA QETANA)TEVIR TIPEHA YE:RAH_BEN_YOMO:TIV ZAQEF(GADOL QATAN)ZARQA ZINOR)l( af[w(MAPIQ
PATAH QAMATS)]ALTERNATIVE(vw p_s)vw BET[w(dj RAFE)]DALET[&31]fi(kf[&31]xj nn PE[&31]
TSADI)GIMEL[&31]HE[w_MAPIQ]HET kf[w(dj RAFE)]LAMED[&31]xj[&31]nn[&31]PE[w(dj RAFE)]QOF[&31]rh[
&31]SAMEKH [&31]qn[w(dj[q(qn_dz SIN_dz)]qn_dz SIN_dz)]TAV[&31]TET[&31]TSADI[&31]VAV[w(dj HOLAM)]WIDE
(af DALET fi_xj HE kf LAMED rh TAV)YOD[w(dj HIRIQ)]zy[&31])la(af_LAMED YIDDISH(d(VAV YOD)VAV_YOD
YOD_YOD_PATAH))m(lo_dz MASORA_k ue_dz)pn(dj_OR_MAPIQ HATAF(PATAH QAMATS SEGOL)HIRIQ
HOLAM[HASER_fx_VAV]JUDEO-SPANISH_VARIKA METEG PATAH QAMATS[QATAN]QUBUTS RAFE
S:EGOL:HEVA:HIN_dz:IN_dz TSERE)u(GER:ESH:SHAYIM MAQAF nn_HAFUKHA PASEQ SOF_PASUQ)YOD_n)
HE:DGEHOG:LICOPTER:LLSCHREIBER_PAUSE_y:LM_y:LMET_w_wh_cs:NTAIGANA_l(A-1~3 A-WO E-1~6 HA-1~9 HA-1:0:1
HE-1~7 HI-1~7 HO-1~8 HU-1~3 I-1~4 KA-1~9 KA-:10:11:KE KE-1~6 KI-1~8 KO-1~3 KO-KI KU-1~7 MA-1~7
ME-:1:2:MA MI-1~7 MO-1~6 MU-1~4 N-MU-MO-:1:2 NA-1~9 NE-1~6 NE-KO NI-1~7 NI-TE NO-1~5 NU-1~3 O-1~3
RA-1~4 RE-1~4 RI-1~7 RO-1~6 RU-1~6 SA-1~8 SE-1~5 SI-1~6 SO-1~7 SU-1~8 TA-1~4 TE-1~9 TI-1~7 TO-1~6
TO-RA TU-1~4 TU-TO U-1~5 WA-1~5 WE-1~4 WI-1~5 WO-1~7 YA-1~5 YA-YO YO-1~6 YU-1~4)
HE:RB:RMITIAN_CONJUGATE_MATRIX:XAGRAM_fx(A:BUNDANCE:FTER_COMPLETION:PPROACH
B:EFORE_COMPLETION:ITING_tg:REAKTHROUGH CO:MING_TO_MEET:NFLICT:NTEMPLATION DARKENING_OF_qi_lg
DE:CREASE:LIVERANCE:VELOPMENT DI:FFICULTY_AT_qi_BEGINNING:SPERSION DURATION ENTHUSIASM FELLOWSHIP
FOLLOWING GATHERING_qs GR:ACE:EAT(PO:SSESSION:WER yn TAMING)hl_qs
IN:CREASE:FLUENCE:NER_TRUTH:NOCENCE LIMITATION MODESTY mu_jm OBSTRUCTION os OPPRESSION
P:EACE:ROGRESS:USHING_UPWARD RE:TREAT:TURN:VOLUTION z(yn TAMING)SPLITTING_APART STANDSTILL
qi(ABYSMAL_wz AR:MY:OUSING_THUNDER C:AULDRON:LINGING_FIRE:REATIVE_hc FAMILY GENTLE_wn JOYOUS_LAKE
KEEPING_STILL_mt MARRYING_MAIDEN RECEPTIVE_er WANDERER WELL)TREADING WAITING WORK_ON_qi_DECAYED
YOUTHFUL_FOLLY)HIBISCUS hh(BRIGHTNESS_y OCTET_PRESET VOLTAGE_s)
HIGH-:HEELED_xv:SPEED_TRAIN[w_bu_NOSE]HI:KING_BOOT:NDU_TEMPLE:PPOPOTAMUS:RAGANA(dr_YORI ir_m l(ah(
WU YE)N z(KA KE TU W:A:E:I:O Y:A:O:U &3)&18 &124 &3)vd_ir_m)HISTORIC_SITE HO:CHO:LE:LLOW_QUILT_sq_g[
IN_bl_sq]HOMOTHETIC HONEY:_POT:BEE ho HOP h(ba bl(HEXAGON OCTAGON)el lz_et mb_w_t_s on_ei(
BLOCK-1358 BLOCK-2~7)SCAN(LINE-:1:3:7:9)TAB_KEY tb[SET w_ja]uz_lg)hj[fa RACING] HO:SPITAL:T(BEVERAGE
DOG PEPPER SPRINGS)HO:TEL:URGLASS[w_FLOWING_SAND]HOUSE[bd BUILDINGS w_GARDEN] HRYVNIA_s HT::J:S
HUGGING_fa hu_POINTS_y HU:SHED_fa:T HYGIEA hy[bu w_da]HYPHEN:-MINUS:ATION_pn
HY:PODIASTOLE:STERESIS_y"

/-- The names that start with `I`. -/
def namesInI : String :=
  "I_LOVE_YOU_hn_s ICE(CREAM CUBE HOCKEY_STICK_q_PUCK SKATE)IDENTICAL(TO[q_sl_pz]w_dz_b) iy_CARD
ig(ANNOTATION(bt_m er_m FIRST_m fo_m FOURTH_m hc_m LINKING_m MAN_m j_m on_m rv_m xs_m tv_m th_m ug_m
tw_m)yz_m DE:PARTING_tn_m:SCRIPTION_ch(b_TO(e j_q_e)fu_SURROUND f_TO(j_q_r r)od SURROUND_fm(f lo_f
ue(&2)&1))ENTERING_tn_m ha_fz_sx ir_m LEVEL_tn_m nu_ze rs_tn_m sx TALLY_m(fv fo on
&5)TELEGRAPH(lz_zk_se_y y_fx(APRIL AUGUST DAY(THIRTY::-ONE
TWENTY-:EIGHT:FIVE:FOUR:NINE:ONE:SEVEN:SIX:THREE:TWO &6 &72 &42)DECEMBER FEBRUARY HOUR(
TWENTY-:FOUR:ONE:THREE:TWO ze &6 &72 &42)JANUARY JU:LY:NE MA:RCH:Y NOVEMBER OCTOBER SEPTEMBER))
VARIATION_ic &11)ik_OF[OR_yg_eq_TO]IMP::ERIAL_ARAMAIC(l(&43 &81)nu(on[&12 ]tq[to]ty &5)
sc_s)INBOX_TRAY INCOM:ING_en:PLETE_if INCRE:ASE_FONT_SIZE_y:ASES_AS:MENT IND id[po_AT_qi_VIEWER]
INDI:AN_rp_s:C_SIYAQ(al_LAKH_m fr(on(ha qa)th_qr)LAKH_m nu(al(on tq_to tw)KAROR::AN LAKH::AN
PREFIXED(&6)&170)pc rp_m)if[NEGATED_w_v_ba]INFORMATION(DESK_ps se(fo on &5)SOURCE)INHIBIT(
aj_o_SHAPING SYMMETRIC_SWAPPING)INPUT_y_fx(lx(ca_zq zq z_zq)NUMBERS SYMBOLS)
INSCRIPTIONAL(PAHLAVI(l(qw MEM-QOPH TETH wy zy &43)nu(fo on[&12]&5 &42))PARTHIAN(l( &43 &81)nu(fo
on[&12]&5 &42)))ib_y ie[AROUND_A_pn_op AVERAGE_w_sk et w(d_t it le_a_w_ho ob x_s un
ui)]INTER:CALATE:IOR_pd:LINEAR_ANNOTATION(ANCHOR se TERMINATOR)INTERLOCKED_fj_q_mb_s io it[
b(ba_b_ui ui)bs_q_jn_w_it w(dz lc_q ob)]iv(bu CHECK:_m:ER_BOARD_fz do_a_w_TIP_le me_gd wh_k)in(io
LAZY_S lw_kv[w_kv_b]OHM_s pt UNDERTIE &60)INVISIBLE(p se x)IZAKAYA_LANTERN"

/-- The names that start with `J`. -/
def namesInJ : String :=
  "JA:CK-O-LANTERN:PANESE(BANK_y CASTLE DOLLS GOBLIN INDUSTRIAL_STANDARD_y OGRE POST_OFFICE
y_fx_BEGINNER)JA:R:VANESE(cn_s(CAKRA KERET PENGKAL)f_RERENGGAN l(A AI BA[mr]CA[mr]DA[mh]DDA[mh]E GA[
mr]HA I[KAWI]II JA[mh]KA[mr oj]LA MA NA[mr]ng[LELET[RASWADI]]ny[mr]O PA[CEREK mr]RA[AGUNG]SA[mh
mr]TA[mr]TTA[mh]U WA YA)PADA(ADEG[ADEG]ANDAP ISEN-ISEN LINGSA LU:HUR:NGSI MADYA PANGKAT PISELEH
TIRTA_TUMETES WINDU)PANG:KON:RANGKEP r_RERENGGAN s(CECAK[TELU]LAYAR PANYANGGA WIGNYAN)
td_PADA_PISELEH vo_s(DIRGA_MURE PEPET SUKU[MENDUT]TA:LING:RUNG TOLONG WULU[MELIK])&7)
J:EANS:IGSAW_PUZZLE_pb:OIN:OYSTICK JU:GGLING:NO:PITER"

/-- The names that start with `K`. -/
def namesInK : String :=
  "KA:ABA:ITHI(dd d(dd &50)ENUMERATION_s l(AU DDDHA E O RHA &62 &4 &20)nu_s[b]s(nk &79 &40)vo_s(AU E
O vc_R &4)&35 &50)KANG:AROO:XI_rl(AGAIN q ARRIVE a AXE B:ADGER:EAN:IG:ITTER:LOOD BO:AT:DY:W
BR:ANCH:ISTLE:USH CA:ULDRON:VE CHILD CLA:N:W CO:LOR:MPARE:RPSE:VER DEER DIPPER dq DISTINGUISH
DO:_nj:OR dz de(CLIFF TENT)d_X dw_bj DR:UM:Y EAR er eg EMBROIDERY ec ENTER EVENING fa
F:ANG:ATHER:EATHER:IELD:IGHT:LUTE:RAGRANT:UR GO[SLOWLY]GRA:IN:SS HA:IR:LBERD ha_uj_TRUNK ht HEMP
HIDING_ec ho ICE IN:CH:SECT JAR KNIFE LA:CK:ME LE:ATHER:EK:GS LI:D:FE lz ln[STRIDE]
M:AN:ELON:ILLET:INISTER:ORNING:OUND mt mu NET NOSE nj on ONESELF oe_bj OPPOSE
P:IG:LOW:OWER:RIVATE:ROFOUND R:AT:ED:ICE r_oe_bj R:IVER:OOF:UN SA:CRIFICIAL_WINE:Y SCHOLAR sr
SE:COND:LF SHOOT sh(TAILED_BIRD THREAD)SICKNESS SKIN sk SL:AVE:ICE z SNOUT gv SP:EAR:IRIT:OON:ROUT
sq ST:AND:EAM:EP:ONE sz STOPPING SWEET TALL tq T:ILE:ONGUE:RACK:REE:RIPOD:URBAN tw[hs]USE VALLEY
VILLAGE WALK[ec]wz WEAPON we WHEAT WINE wm WORK WR:AP:ONG YELLOW &156 &182 &37) KANNADA(AI_lt_m lt_m
l(EE FA ll xh NAKAARA_POLLU OO rr &62 &87 &20)s(ji jq SPACING_cb ua &79 &53)vo_s(EE OO
&87)&7)kk(dr_KOTO ir_m l(ah(E WU YE YI)MINNAN(NASALIZED(TONE-1~5 TONE-:7:8)TONE-2~5 TONE-:7:8)N
z(H:A:E:I:O:U K:A:E:U MU N NU R:A:E:I:O:U SI SU TO TU W:A:E:I:O Y:A:O:U &3)V:A:E:I:O &18 &124
&3)j_dz vd_ir_m)kt(d_hy PROLONGED_gv_m &135)KAYAH_LI(l(A CA HTA I kz LA ng ny OE OO pv nf vq VA ZA
&18)s(CWI SHYA)tn(CALYA[PLOPHU]PLOPHU)vo(E EE O U UE)&7)KE:LVIN_s:Y:YBOARD[q_xn] KEYCAP_tq
KHAROSHTHI(dg(fo on &5)fr_on_ha l(KKA nf uw TTT:A:HA VA VHA YA ZA &62)nu(on(&12)&42)u(k js_ba dz
LINES LOTUS MANGALAM z_k &44)s(ba_b CAUDA d_ri_e &26 &78)vi vo(lt_m s(E I O U vc_R)))
KH:ITAN_z_sr_fl:MER(qk_y_RIEL ip_vo(LY::Y QA:A:I:Q:U Q:E:I:II:OO_TYPE(on tw)QU::K:U:UV RY::Y) l(CA
KA LA NNO QA nf SSO TTH:A:O &61 &126)s(A:HSDA:TTHACAN:VAKRAHASANYA BA:NTOC:RIYOOSAN:THAMASAT BEYYAL
CAMNUC_PII_KUUH COENG K:AKABAT:HAN:OOMUUT LEK_TOO MUUSIKATOAN NIKAHIT PHNAEK_MUAN REAHMUK ROBAT
SAMYOK_SANNYA TOANDAKHIAT TRIISAP VIRIAM YUUKALEAPINTU)y(BEI(ko rk)BUON(ko rk)DAP(ko rk) DAP-BEI(ko
rk)DAP-BUON(ko rk)DAP-MUOY(ko rk)DAP-PII(ko rk)DAP-PRAM(ko rk)LEK_ATTAK(BEI BUON MUOY PII
PRAM::-BEI:-BUON:-MUOY:-PII SON)MUOY(ko rk)PATHAMASAT PII(ko rk)PRAM(ko rk)PRAM-BEI(ko rk)PRAM-BUON(
ko rk)PRAM-MUOY(ko rk)PRAM-PII(ko rk)TUTEYASAT)vo(INHERENT(AA AQ)s(AE AU E IE OE OO UA Y::A:Y &4))
&7)KHOJKI(dd d(dd &50)l(A:A:I:U BBA DDDA E GGA I JJA ll ng O U VA YA &62)s(an nk xt SUKUN vi)
vo_s(A:A:I:U E I II O U)wo_se &35 &50)KHUDAWADI(l(AU BBA DDDA E GGA jh JJA ng O rr nf VA YA &62 &4)
s(an nk vi)vo_s(AU E O &4)&7)KI:MONO:P_s:SS[m]KISSING(CAT_fa_w_cx_ey fa[w(cx_ey sg_ey)])
K:ITE:IWIFRUIT:NEELING_ps:NOT:OALA:OREAN_STANDARD_y:RONOS"

end PacketSmith.Text.NameTree

/-!
# Names of characters that start with `T` to `Z`

The names as a tree of words, in the form that `Text.CharacterName` describes.
-/

namespace PacketSmith.Text.NameTree

/-- The names that start with `T`. -/
def namesInT : String :=
  "T-:REX:SHIRT TA:B:BLE_TENNIS_PADDLE_q_bz:CO:G(ap f(&112)lw_lz qu_m r(&112)so sx &7 &116 &108
&111)TAGALOG(l(A ah_RA I LA ng U &18)s(PAMUDPOD vi)vo_s(I U))TAGBANWA(l(BA DA GA I ng SA TA U WA YA
&13)vo_s(I U))TAI(LE_l(AI AUE E::E:H FA HA I kz ng O OO pv QA SA TA vq TONE-2~6 TS:A:HA U UE VA XA
YA &13)THAM(co_CRYPTOGRAMMIC_dz cn_s(BA fi_ng hh_RATHA_OR_lw_PA LA_TANG_LAI lw_PA MA md(LA RA)SA)
HORA_dg(ze &6)l(A BA DA EE GREAT_SA hh(CA qh FA HA KA kz KXA PA pv RATHA S:A:HA:SA TA vq YA)I II
LA::E ll lw(CA qh FA HA KA kz KXA PA pv RATHA SA TA vq YA)LUE MA NA ng ny OO RA::NA:TA RUE U UU
WA)s(CAANG DOKMAI HANG HOY KAAN::KUU KEOW KHUEN(TONE-3~5)KHUEN-LUE_KARAN MAI (KANG[LAI]SAM YAMOK)
RA_HAAM re_ro_RANA SAKOT SATKAAN::KUU SAWAN TONE-:1:2 WIANG::WAAK)THAM_dg(ze &6)vo_s(A AE E MAI_SAT
O OA(&1)OO OY TALL_AA THAM_AI UE UUE &4))VIET(l(hh(BO FO GO HO KHHO O SO &126)lw(BO FO GO HO KHHO O
SO &126))MAI(KANG KHIT)y(HO_HOI KO:I_KOI:N NUENG SAM)tn_MAI(EK NUENG SONG THO)vo(A:A:M:N:UE:Y E I IA
O U::A:E:EA)))TAK:EOUT_bj:RI(l(ah_kz AU E jh ng O rr nf VA YA &62 &4)s(nk &79)vo_s(AU E O &4)&7
&35)TALLY_m(fv on)TAM:ALE:IL(q_ODD_s AS_b_s AU_lt_m CREDIT_s zc_s D:AY_s:EBIT_s:RY_CULTIVATION_s
fr(DOWNSCALING_FACTOR_KIIZH on(ei EIGHTIETH FIFTH FORTIETH HALF-:1:2 oh qa SIXTEENTH-:1:2
SIXTY-FOURTH T:ENTH:HIRTY-SECOND:HREE-HUNDRED-AND-TWENTIETH:WENTIETH)th( EIGHTIETHS qr
SIXT:EENTHS:Y-FOURTHS TWENTIETHS))IN_POSSESSION_s LAND_s l(AU E EE HA ll xh NN:A:NA O OO RA rr SA uw
TA TTA VA YA &4 &13 &55)MONTH_s nu(on(&12)s tq)OM u_ed_OF_qq rp_s SALT_PAN_s s( AAZHAAKKU CEVITU
KAACU KU:RUNI:ZHI MU:KKURUNI:THALIYA:UVUZHAKKU NEL PA:ARAM:NAM:THAKKU PON UZHAKKU VA:KAIYARAA:RAAKAN
VELI &79)SPENT_s STARTING_fm_s TOTAL_s TRADITIONAL(CREDIT_s nu_s)vo_s(AU E EE O OO
&4)WET_CULTIVATION_s YEAR_s &7)TAN:ABATA_uj:GERINE:GSA(l(A:C:Q:WC:WQ:WX:WZ:X:Z CA qh xc E:C:Q:X:Z FA
fi_NG gh HT:A:TA I:C:Q:X:Z kz LA ln_UEX M:C:Q:X:Z ng NHA ny O:C:Q:X:Z pv nf sh(AWX UEZ)vq TSA UC
UE:C:Q:X:Z UI:C:Q:UC:UQ:UX:UZ:X:Z U:Q:X:Z V:C:Q:X:Z XA ZA &18)&7)TA:NGUT_ir_m:PE( CARTRIDGE
DRIVE)TA:URUS:XI TEA:CUP_wu_HANDLE:POT:R-OFF_CALENDAR:RDROP-BARBED_i_a ts_as
TE:DDY_BEAR:LEPHONE(xi_s ON_ug_OF_MODEM RECEIVER[w_PAGE]RECORDER s)TEL:ESCOPE:EVISION:UGU( AI_lt_m
fr_dg(on_fx(EVEN_pw_OF_fo ODD_pw_OF_fo)th_fx(EVEN_pw_OF_fo ODD_pw_OF_fo)tw_fx(EVEN_pw_OF_fo
ODD_pw_OF_fo)ze_fx_ODD_pw_OF_fo)lt_m l(DZA EE ll xh NAKAARA_POLLU OO rr RRRA TSA &62 &87 &20)s(co(
an_b cb_b)jq TUUMU &79 &53)vo_s(EE OO &87)&7)TE:NGE_s:NNIS_RACQUET_q_bz:NT:ST_TUBE:TRAGRAM_fx(
A:CCUMULATION:DVANCE:GGRAVATION:SCENT BARRIER bv_RESOLUTION BRANCHING_ot ce CHANGE cx_mu
CLOS:ENESS:URE COMPL:ETION:IANCE CON:STANCY:TACT:TENTION:TRARIETY DARKENING
DE:CISIVENESS:FECTIVENESS_OR_DISTORTION:PARTURE DI:FFICULTIES:MINISHMENT:MMING:VERGENCE DOUBT DUTIES
E:ASE:MBELLISHMENT:NCOUNTERS:NDEAVOUR:NLARGEMENT:TERNITY:XHAUSTION F:AILURE:LIGHT:OLLOWING:OSTERING
fu_k FULLNESS GATHERING[IN]G:OING_TO_MEET:REATNESS:UARDEDNESS HARDNESS hl_bf IN:CREASE:NER JOY
KEEPING_z KINSHIP LA:BOURING:W_OR_MODEL LEGION MASSING mq MIRED ON_qi_VERGE os
P:ACKING:ATTERN:ENETRATION:URITY RE:ACH:LEASE:SIDENCE:SISTANCE:SPONSE RITUAL SEVERANCE SINKING
ST:OPPAGE:OVE:RENGTH UNITY VASTNESS_OR_WASTING WA:ITING:TCH YOUTHFULNESS)THAANA(AABAAFILI ABAFILI
E:BEFILI:EBEEFILI:YBEYFILI IBIFILI l(AINU ALIFU BAA CHAVIYANI DA:ADHU:VIYANI DHAALU FAAFU
G:AAFU:HAINU:NAVIYANI HAA HHAA JAVIYANI KAAFU KHAA LAAMU LHAVIYANI MEEMU NAA NOONU PAVIYANI QAAFU
RAA S:AADHU:EENU:HAVIYANI:HEENU TAVIYANI THAA::LU TO TTAA VAAVU WAAVU YAA ZA:A:VIYANI ZO)
O:ABOAFILI:BOFILI:OBOOFILI SUKUN UBUFILI)THAI(ch(ANGKHANKHU BO_BAIMAI CHO(CH:AN:ANG:ING:OE)DO(CHADA
DEK)FO(FA::N)FONGMAN HO(HIP NOKHUK)KHO(KH:AI:ON:UAT:WAI RAKHANG)KHOMUT KO_KAI LAKKHANGYAO LO(CHULA
LING)LU MAI(CHATTAWA EK HAN-AKAT THO TRI)MAI:TAIKHU:YAMOK MO_MA N:GO_NGU:IKHAHIT:O(NEN NU)O_ANG
PAIYANNOI PH:INTHU:O(PH:AN:UNG SAMPHAO)PO_PLA RO_RUA RU SARA(A:A:E:I(MAIM:ALAI:UAN)AM II UE::E UU
&3)SO(RUSI S:ALA:O:UA)TH:ANTHAKHAT:O (NANGMONTHO PHUTHAO TH:AHAN:AN:ONG:UNG)TO(PATAK TAO)WO_WAEN
YAMAKKAN YO(YAK YING))qk_y_BAHT &7)THERE(DOES_nj_EXIST EXISTS)THER:EFORE:MODYNAMIC:MOMETER
THIN(ge_cs qb sx)THINKING_fa tv_PLACE_mg THO:NG_SANDAL:UGHT_BALLOON th(bx_xn CONSECUTIVE_ea_SIGNS
DIMENSIONAL_ag dz_u le_aw LINES_CONVERGING(&2)NETWORKED_COMPUTERS pi_bl_sa zv(&1 &2)i_aw
SPEECH_BUBBLES)THREE-D(BOTTOM-LIGHTED_i_ar LEFT-LIGHTED_do_eu_ar RIGHT-LIGHTED_up_eu_ar
TOP-LIGHTED(le_eu_ar i(ar eu_ar)))THREE-:EM_dh:PER-EM_sx THUMBS(dw_s UP_s) THUNDER:_wc_q_RAIN:STORM
TIBETAN(yw_s(-KHYUD_PA SDONG_TSHUGS SGRA_GCAN_-CHAR_rx) CANTILLATION_s(CANG_TE-U he_BEAT lg_BEAT
SBUB_-CHAL)dg(ha(ze &6)ze &6)KU_RU_kz[BZHI_MIG_CAN]l(-A DZHA FIXED-FORM_RA KKA KSSA ng rr nf uw WA
YA &62 &56)LOGOTYPE_s(CHAD_rx LHAG_rx)m(ANG_KHANG( GY:AS:ON)BKA-_SHOG(GI_xl_RGYAN
YIG_xl)BS:DUS_rx:KA-_SHOG_GI_xl_RGYAN:KUR_YIG_xl um(-DZUD_rx( BZHI_MIG_CAN
ME_ln_CAN)YIG_xl_PHUR_gk_MA)CHE_xl yz(BRDA_RNYING_YIG_xl_SGAB_MA YIG_xl_SGAB_MA)vf_kw_BSTAR GTER(kw
YIG_xl(-UM(GTER_kw_MA RNAM_BCAD_MA)TRUNCATED_A) )GUG_rx(GY:AS:ON)hp ii(BRDA_RNYING_YIG_xl_MDUN_MA
YIG_xl_MDUN_MA)INTERSYLLABIC_kw LEADING_MCHAN_rx MNYAM_YIG_GI_xl_RGYAN NGAS_BZUNG(NYI_ZLA
SGOR_rx)NYIS(gk kw[gk])PALUTA RGYA_GRAM_gk RIN_CHEN_SPUNGS_gk SBRUL_gk gk TRAILING_MCHAN_rx
TS:A_-PHRU:HEG_gk YIG_xl_kw_gk_MA)s(GRU(CAN_RGYINGS MED_RGYINGS)in_MCHU_CAN LC:E_TSA_CAN:I_rx
MAR_TSHES MCHU_CAN NYI_ZLA_NAA_DA RDEL(DKAR(G:CIG:NYIS:SUM RDEL_NAG)NAG(G:CIG:NYIS:SUM
RDEL_DKAR))RJES_SU_ng_RO RNAM_BCAD SNA_LDAN ya_rx YAR_TSHES)jd(l(-A DZHA FIXED-FORM(RA WA YA)KSSA ng
nf uw WA YA &62 &56)s(in_MCHU_CAN LCE_TSA_CAN MCHU_CAN))sy_OM y(DRIL_BU NOR_BU[BZHI_-KHYIL
GSUM_-KHYIL NYIS_-KHYIL] PADMA_GDAN PHUR_PA RDO_RJE [RGYA_GRAM])vo_s(AA E EE I II O OO re(I II)U UU
&86)) TI:CKET:E_ov_if:FINAGH(cn_jo l(AHAGGAR_YAZH AYER_YAGH BERBER_ACADEMY(YA:H:J)TAWELLEMET_YAZ
TUAREG( YA:GH:GN:H:K:KH ya YA:Q:ZH)
YA::A:B:BH:CH:D:DD:DDH:DH:F:G:GH:GHH:H:HH:J:K:KH:KHH:L:M:N:P:Q:R:RR:S:SH:SS:T:TH:TT:V:W:Y YAZ::H:Z
Y:E:EY:I:O:U)mo_l_LABIALIZATION_m se_m)TIGER[fa]TIGHT_TRIFOLIATE_SNOWFLAKE ti[op[b(&75 )w(rs_dt &8)]
w(ri_b &38)]TIMER_CLOCK x_w(&59)TINY[tw_dt_ov_on_dz_u]TIR:ED_fa:HUTA(ANJI GVANG l(&62 &87 &20)OM s(
&79 &53)vo_s(sh(E O)&87)&7 &35)TIRONIAN_s(ca_ET ET)TO:ILET:KYO_TOWER:MATO:NGUE:OLBOX:OTH:OTHBRUSH:P(
yh(ai_a[w_p]jb_a_w_mi)ha(bl_k ie sc_s &100)HAT f(cz CROP ha_c)r(cz CROP ha_c)sq_c w_up_a_b
&73)tj_jk_BRACKETED(CJK_UNIFIED(IDEOGRAPH-:4E09:4E8C:52DD:5B89:6253:6557:672C:70B9:76D7)
lx_ca_l_S)TOT:AL_RUNOUT:O(l(AE BREATHY(AE E EO I IU)qh EO IU JA LA ng &18 &3)s_rs_tn)
TRA:CKBALL:CTOR:DE_m_s:IN:M[CAR]TRANS:PLUTO:VERSAL_it n_w(ru_jm SERIFS_AT_bt un &8)tr_i_a ta(bu
fg_ON_POST RULER)TRI:COLON:DENT_EMBLEM:GRAM_fx(er FIRE hc LAKE mt THUNDER wz wn)tp(cl_op wx
h_ba_w(d_v_t tp_v_t)ie NESTED(&47)p pm so_BINARY_rb ti v_ba(BINARY_rb vf r_tt
w_h_t))TRO:LL:LLEYBUS:PHY:PICAL(DRINK zm)TRUE[lg_mz_ARTA]TRUMPET
TU:GRIK_s:LIP:MBLER_GLASS:RKEY:RKISH_LIRA_s td(am ag bl(pk SHOGI_pb)ca_F cm wx dg(&5) ge_z_l_iq
nr(es_po_lk we_po_lk)nj_s OK_hn_s sn_ca(G L Y)sm z_F sj(es_po_lk we_po_lk)wh_SHOGI_pb) TURTLE
TW:ELVE_pi_bl_sa:ISTED_i_aw tw(ASTERISKS_ALIGNED_ve bx_xn CONSECUTIVE_ea_SIGNS dz(LEADER
u)dt_ov_on_dz_u hb INTERSECTING_lc(q OR)jn_uv lc(q_op OR_op)MEN_hl_hs SPEECH_BUBBLES
WOMEN_hl_hs)TWO-EM_dh"

/-- The names that start with `U`. -/
def namesInU : String :=
  "UGARITIC(l(yf ALPA by ur DHAL GAMLA gb HO::TA I kf kz LAMDA xj nn PU QOPA RASHA S:ADE:AMKA:HIN:SU
T:ET:HANNA:O U WO YOD ZETA ZU)wo_dv)ub[ON_GROUND w_RAIN_DROPS]
UN:AMUSED_fa:CERTAINTY_s:DERTIE:DO_y:ICORN_fa ui[b(ba_b_it it)bs_q_jn_w_ui w(lc_OR mi_s ob)]
UNI:T_se:TED_y:VERSAL_ry_y UNMARRIED_PARTNERSHIP_y UP(a_tg_k ar[be_tw_h_BARS IN_A_rc_bj]bb(f_dw_bb(
f_hr r_hr)r_dw_bb(f_hr r_hr))dw(a[w_BASE]d_a tr_a &133)zm_tl r_di_el tc[w_k_b])uo(aq MILITARY_aq
RED_n z(aq RED_n)n_w(&59))ue(q(f_q_lo_ta_th_qr_bo lo(on_ei_bo ta_ha_bo)r_q_lo_ta_th_qr_bo) BLADE_jt
ha(bo[q_lo_ha_iv_me_gd]k iv(me_gd_q_lo_ha_bo wh_k)me_gd)f(OR_lo_r_cy_c_sc TO_lo_r_fz &143)r(yj_wh_sq
OR_lo_f_cy_c_sc go_wh(&27)TO_lo_f_fz &144)&120) UPSIDE-DOWN_fa up(a[q_r_on_ei_bo le_OF_do_a w(d_t
h_t TIP(&88)&103)&69 ]tr(a[le_OF_do_tr_a TO_ba w( d_h_t ln_TIP(&88)&122)]&98)uk_a(fm_z_k
w_n_ad)wh(a[fm_ba[w_h_ba]ON_PEDESTAL[w(h_ba v_ba)] wt_n_ar]d_a[ON_PEDESTAL])&117 &153)URANUS US"

/-- The names that start with `V`. -/
def namesInV : String :=
  "VAI(sy(AN BH:A:E:EE:I:O:OO:U BOO COO DH:A:E:EE DHH:A:E:EE:I:O:OO:U DH:I:O:OO:U DOO EE::N EN FOO
GB:A:E:EE:EN:I:O:ON:OO:U GEN GOO H:AN:EN:IN:ON:OO:UN IN JOO KAN KOO KP:A:AN:E:EE:EN:I:O:OO:U lh LOO
MB:A:E:EE:I:O:OO:U MGB:A:E:EE:I:O:OO:U MOO ND:A:E:EE:I:O:OLE(DO FA KA MA SOO)ND:OO:U NG::AN:EN
NGG:A:E:EE:EN:I:O:OO:U NGON NJ:A:E:EE:I:O:OO:U NOO NYOO ON OO::N POO ROO SHOO SOO THOO TOO UN VOO
W:AN:EEN:EN:IN:ON:OO:OON:UN YOO ZHOO ZOO &18 &124 &176 &3)y(BANG DANG DO:-O:ONG FAA FEENG JONG KEENG
KUNG NII T:AA:ING:ONG)&7 &11 &49)VAMPIRE VE:CTOR_OR_cs_pd:DIC(s(an(yt BAHIRGOMUKHA UBHAYATO_MUKHA
VAMAGOMUKHA[w_tl])yu ATIKRAMA d_an_yt HEXIFORM_ln_an ji ln_an NIHSHVASA re_vs(au UDATTA)ro_yu
RTHANG_ln_an TIRYAK ua vs(au[w_tl]eo UDATTA[w_tl]) YAJURVEDIC_MIDLINE_eo)tn(ATHARVAVEDIC_ip_eo
gx(&1)d(ri_b eo)KA:RSHANA:THAKA_au PRENKHA RIGVEDIC_KASHMIRI_ip_eo ri_b SHARA t:h_dt_e:p_eo:w_dt_e
YAJURVEDIC( AGGRAVATED_ip_eo ip_eo KATHAKA_ip_eo[SCHROEDER])&26))VERSICLE v(ba(bs_r_n d_f_tt tp_r_tt
w_h_t)el fo_dt ig_ir_m KANA_rj(m[lo_ha ue_ha]w_vd_gv_m[ue_ha])lz[et w(k(&1)j_dz)] mb_w_t_s
on_ei(BLOCK-2~7)np_dt TAB_KEY tb[SET]ti uz_lg zi_lz)vy(bv_ge_cs he(eg(&83)rv_so np_gg_as so
&106)MUCH(&47))VESTA VI:BRATION_MODE:CTORY_hn:DEO(CAMERA GAME)
VI:DEOCASSETTE:ETNAMESE_al_READING_m(CA NHAY)VI:EWDATA_sq:OLIN:RGO:THKUQI(ca_l(BBE CHE EI GA HA HHA
IJE KA LA ll NJE QA Y &3 &107)z_l(BBE CHE EI GA HA HHA IJE KA LA ll NJE QA Y &3 &107))VOIDED_ge_cs
VOL:CANO:LEYBALL:UME_ie VS1~9 VS10~99 VS100~256 VT::S VUL:CANUS:GAR_fr(fv(eh SIXTHS)fo_FIFTHS on(ei
FIFTH ha NINTH qa SEVENTH SIXTH TENTH tv)sv_eh th(eh FIFTHS qr)tw(FIFTHS jf)ze_jf)"

/-- The names that start with `W`. -/
def namesInW : String :=
  "WA:FFLE:NCHO(l(AA::N:NG ANG AU EN FA ING kz LA LLHA ON::G pv T:HA:RA:SA UEN VA YIH ZA &18 &3 &55)
NGUN_s tn(KOI::NI TUP::NI)&7)WANING(js_mz_y GIBBOUS_mz_y)WARANG_CITI(ca_l(&177)nu(&92 )OM z_l(
&177)&7)WA:RNING_s:STEBASKET:TCH wz(BUFFALO CLOSET POLO wa)WATERMELON wa(a_po_DIRECTLY(&2)dh)WAVING(
bl_fg hn_s wh_fg)wv(dh lz lw_lz ol)WAXING(js_mz_y GIBBOUS_mz_y)WEARY(CAT_fa fa)
WE:DDING:DGE-TAILED_i_a:IERSTRASS_ELLIPTIC_FUNCTION:IGHT_LIFTER we_SYRIAC_cs WH:ALE:EEL[OF_DHARMA]
wl_y wh(a_qm_WIDTH(on tw_jf)bu k[gf_bl_z_k w(dz_r dw_a lo(&114)tw_dt ue(&114))]
CONCAVE-SIDED_dm[w(le_TICK i_TICK)]dm[gf_bl(me_dm z_dm vy_z_dm)IN_sq SUIT w_cf_dz] dw_po(bk_id id
f_hn_id)dn(z_n n)ex_m_g fg[w_h_j_bl_STRIPE]FLOWER fo_pi(CUSP sa)xf_fa he( jr_m
qb_w_ru_jm)l:r_sq:x_cs:f(pf z_n n)lj_gf_bl_z_lj me(z_sq sa &85) mz_SELENA rg(pk pf z_n n)SESAME_dz
z(lj sq sa)sq[bx gf_bl(me_sq z_sq vy_z_sq)w( ce_v_lz le_TICK lo(&114)i_TICK ru_jm
ue(&114)v_BISECTING_lz)]SUN[BEHIND_wc[w_RAIN]w(zv z_wc)]TRAPEZIUM n_gf_z_wh_n UP_po(bk_id
id)uo(CHEVRON z_n n[w_dz])v(ba em rc) vy_z_sq &140)WHITE-FEATHERED_i_a
WIDE-HEADED(do(&58)le(&58)nr(es(&58)we(&58))i(&58)sj(es(&58)we( &58))up(&58))wg_v_lz WILTED_FLOWER
wn(BLOWING_fa CHIME)WIN:DOW:E_GLASS:KING_fa W:IRED_KEYBOARD:J:OLF_fa wm[w_BUNNY_EARS]WOMANS(BOOTS
CLOTHES HAT SANDAL)WO:MENS_y:N_s:OD wo(jo se_j_dz)WOR:LD_MAP:M:RIED_fa
WR:APPED_PRESENT:EATH_pd:ENCH:ESTLERS:ITING_hn"

/-- The names that start with `X`. -/
def namesInX : String :=
  "X:_IN_A_rc_bj:-RAY:IANGQI(bl(CANNON oq ELEPHANT GENERAL hj MANDARIN SOLDIER)RED(CANNON oq
ELEPHANT GENERAL hj MANDARIN SOLDIER))XOR"

/-- The names that start with `Y`. -/
def namesInY : String :=
  "YAWNING_fa YE:LLOW_ht:N_s:ZIDI(co(hm_m mj_m)HYPHENATION_m l(BE CH:HIM:IM CIM DA:D:L E:LIF:T:W:YN
FA GAF HAY HHA JA kf KHAF yl[w_dz_b]MIM nn OW PE PHE qf RA RHA S:AD:E:HIN:IN TA qi UM VA[al_o]ww XA
XHEYN YOT[w_ci_b]ZA::L ZE))YI(rl(&150)sy(A:P:T:X BA::P:T:X BBA:P:T:X BBE:P:X BBI:E:EP:ET:EX:P:T:X
BBO:P:T:X BBU:O:OP:OX:P:R:RX:X BBY::P:T:X BE::P:X BI::E:EP:ET:EX:P:T:X BO::P:T bj
BU::O:OP:OX:P:RX:T:X BY::P:R:RX:T:X CA::P:T:X CE::P:X CHA:P:T:X CHE:P:T:X CHO:P:T:X
CHU:O:OP:OT:OX:P:R:RX:X CHY::P:R:RX:T:X CI::E:EP:ET:EX:T:X CO::P:T:X CU::O:OX:P:R:RX:T:X CY:R:RX:X
DA::P:T:X DDA:P:T:X DDE:P:X DDI:E:EP:EX:P:T:X DDO:P:T:X DDU:O:OP:OX:P:RX:T:X DE::P:X
DI::E:EP:EX:P:T:X DO::P dz DOX DU:O:OX:P:R:RX:T:X EX FA::P:T:X FI::P:T:X FO::P:X FU::P:R:RX:T:X
FY::P:T:X GA:P:T:X GE::T:X GGA:P:T:X GGE:P:T:X GGI:E:EP:EX:T:X GGO:T:X GGU:OP:OT:OX:P:R:RX:T:X
GI::E:EP:ET:EX:P:T:X GO::P:X GU::O:OP:OT:OX:P:R:RX:T:X HA::P:T:X HE::P:X HI:E:EX:T HLA::P:T:X
HLE::P:X HLI::E:EP:EX:P:T:X HLO::P:X HLU::O:OP:OX:P:R:RX:T:X HLY::P:R:RX:T:X HMA::P:T:X
HMI::E:EP:EX:P:T:X HMO:P:T:X HMU::O:OP:OX:P:R:RX:T:X HMY::P:R:RX:X HNA::P:T:X HNE::P:X
HNI::E:EP:ET:EX:P:T:X HNO:P:T:X HNU:O:OX:T HO::P:T:X HUO::P:T:X HXA::P:T:X HXE::P:X
HXI::E:EP:ET:EX:P:X HXO::T:X HXUO:P:T:X IE::P:T:X IP IT ir_m IX JI::E:EP:ET:EX:P:T:X
JJI::EP:ET:EX:P:T:X JJO::P:T:X JJU::O:OP:OX:P:R:RX:X JJY:P:T:X JO:P:T:X JU::O:OP:OT:OX:P:R:RX:T:X
JY::P:R:RX:T:X KA:P:T:X KE:P:T:X KI:E:EP:EX:P:X KO:P:T:X KUO::P:X KUP kx KU:RX:T:X LA:P:T:X LE:P:X
LI:EP:ET:EX:P:T:X LO:P:T:X LUO::P:T:X LU:P:R:RX:T:X LY::P:RX:T:X MA:P:T:X MEX MGA::P:T:X MGE::P:X
MGIE::X MGO::P:T:X MGU::O:OP:OX:P:R:RX:T:X MI:E:EP:EX:P:T:X MO:T:X MUO::P:T:X MU:P:R:RX:T:X
MY::P:T:X NA:P:X NBA::P:T:X NBI::EP:EX:P:T:X NBO::P:T:X NBU::P:R:RX:T:X NBY::P:R:RX:T:X NDA::P:T:X
NDE::P:X NDI::E:EX:P:T:X NDO::P:T:X NDU::P:R:RX:T:X NE:P:X ng NGA:P:T:X NGE::P:X NGIE::P:X
NGO::P:T:X NGUO::T:X NI:E:EP:EX:P:T:X NJI::E:EP:ET:EX:P:T:X NJO::P:T:X NJU::O:OX:P:R:RX:X
NJY::P:R:RX:T:X NOP nj NOX NRA::P:T:X NRE::P:T:X NRO::P:X NRU::P:R:RX:T:X NRY::P:R:RX:T:X
NU:O:OP:OX:P:R:RX:T:X NYI::E:EP:ET:EX:T:X NYO::T:X NYU::O:OP:OX:P:T:X NZA::P:T:X NZE::X
NZI::E:EP:EX:P:T:X NZO:P:X NZU::O:OX:R:RX:X NZY::P:R:RX:T:X OT OX PA:P:T:X PI:E:EP:EX:P:T:X PO:P:T:X
PU:O:OP:OX:P:R:RX:X PY::P:R:RX:X QIE::P:T:X QI:P:T:X QO:P:X QUO::P:T:X QU:P:R:RX:T:X QY::P:R:RX:T:X
RA:P:T:X RE:P:X RO:P:T:X rr RRAX RRE::P:T:X RRO::P:T:X RRU::O:OX:P:R:RX:T:X RRY::P:R:RX:T:X
RU:O:OP:OX:P:R:RX:T:X RY::P:R:RX:T:X SA:P:T:X SE:P:X SHA::P:X SHE::P:T:X SHO::T:X
SHU::O:OP:OX:P:RX:T:X SHY:P:R:RX:T:X SI:E:EP:EX:P:T:X SO:P:T:X SSA:P:T:X SSE:P:X SSI:E:EP:EX:P:T:X
SSO:P:T:X SSU:P:T:X SSY::P:R:RX:T:X SU:O:OP:OX:P:R:RX:T:X SY::P:R:RX:T:X TA:P:X TE:P:X
TI:E:EP:EX:P:T:X TO:P:T:X TUO::P:T:X TU:P:R:RX:T:X UO::P:X VA::P:T:X VEX VI::E:EP:ET:EX:P:T:X
VO::P:T:X VU::P:RX:T:X VY::P:R:RX:T:X WA:P:T:X W:EP:EX:OP:OX:U WUO::P:X XIE::P:T:X XI:P:T:X XO:P:T:X
XUO::X XY::P:R:RX:T:X YI::E:EP:ET:EX:P:X YO:P:T:X YU::O:OP:OT:OX:P:R:RX:T:X YY::P:R:RX:T:X ZA:P:T:X
ZE::P:X ZHA::P:T:X ZHE::P:T:X ZHO::P:T:X ZHU::O:OP:OX:P:R:RX:T:X ZHY::P:R:RX:T:X ZI::E:EP:EX:P:T:X
ZO:P:X ZU::O:OP:OX:RX:T:X ZY::P:R:RX:T:X ZZA:P:T:X ZZE:P:X ZZI:E:EP:EX:P:T:X ZZO:P:X ZZU:P:R:RX:X
ZZY::P:R:RX:T:X &13 &150 &174 &188))YIN_ya YO-YO"

/-- The names that start with `Z`. -/
def namesInZ : String :=
  "Z_nb(BAG_MEMBERSHIP DOMAIN_vm f(BINDING_c ik_c)RANGE_vm RELATIONAL_cp r(BINDING_c ik_c)SCHEMA(cp
PIPING PROJECTION)SPOT TYPE_cl)ZANABAZAR_sq(yz( zg_hd_m hd_m)CLUSTER-FINAL_l(LA RA VA YA)vp_l_RA
fi_cn_m ii(zg_hd_m hd_m)l(-A DZHA KSSA ng nf uw VA YA &62 &56)m(d_gk ln_kw gk kw)s(gx_w_g
cb[w_g]&79) SUBJOINER vo(lt_m s(AI AU E I O OE re_I U UE)))ZEBRA_fa ze_WIDTH(jo
NO:-BREAK_sx:N-JOINER sx) Z:EUS:IPPER-MOUTH_fa:NAMENNY(co(ATTACHING_v_OMET lo_TONAL_RANGE_ic
m(BORZAYA CHASHKA[POLNAYA]cv_OMET DEMESTVENNY_ZADERZHKA DVOETOCHIE GORAZDO(NIZKO(ON(&2)S_kr_ON(&2
))VYSOKO)KACHKA KRYZH[ON_f]KUPNAYA LOMKA
MALO_POVYSHE(ON(&2)S(km_ON(&2)kr)STRANNO)NIZKO(ON(&2)S_kr_ON(&2))O:BLACHKO:N:TSECHKA
PODCHASHIE[w_v_t]PO:DVERTKA:VYSHE(ON(&2)S(km_ON(&2)kr)STRANNO)RA:VNO:ZSEKA
S:KOBA:OROCHYA_NOZHKA:REDNE_ON(&2)STRANNO_MALO_POVYSHE T:IKHAYA:OCHKA:SATA(ON(&2)S_kr)UDARKA VYSOKO(
ON(&2)S(km_ON(&2)kr))ZADERZHKA ZE:LO:VOK)TONAL_RANGE_m(MRACHNO SVETLO TRESVETLO))NEUME(
CH:ASHKA:ELYUSTKA DE:MESTVENNY_KLYUCH:RBITSA d_za DUDA DVA_V_CHELNU FITA GOLUBCHIK(BORZY MRACHNY
SVETLY TIKHY TRESVETLY)K:HAMILO:LYUCH:OBYLA:RYUK [TIKHY]KRYZH KUFISMA MECHIK[
KLYUCHE:NEPOSTOYANNY:POVODNY:VOY POVODNY]NEMKA OBLAKO OSOKA[kl(ne sw)KRYUKOVAYA_sw sw jl]
PA:LKA:RAKLIT:UK PEREVODKA[ne]PO:DCHASHIE:LKULIZMY re_CHELYUSTKA ROG SKAMEYTSA(zj(kl ne py sw)ky
kl(sw TIKHAYA)my sw TIKHAYA jl )SLOZHITIE[S(kr zp)ZAKRYTOE]STATYA[ne S( DVUMYA_ZAPYATYMI
kr[I_zp]ROGOM zp[I(kr PODCHASHIEM)])ZAKRYTAYA[S_zp]]STOPITSA[S_OCHKOM
w_SOROCHYA_NOZHKA]STRELA(zj[kl]DVOECHELNO:KRYZHEVAYA:POVODNAYA[kl]ky KLYUCHEPOVODNAYA
KRYUKOVAYA[TRYASKA &171]KRYZHEVAYA MRACHNOTIKHAYA ne POLUPOVODNAYA py TIKHAYA_PUTNAYA
TRYASO:GLASNAYA:POVODNAYA:STRELNAYA &171)VRAKHIYA(kl(my py sw jl)my py sw jl) ZANOZHEK za
ZMEYTSA)PRIZNAK_mo(DIRECTION_FLIP KRYZH LEVEL-:2:3 ROG))ZOMBIE ZW:J:NBSP:NJ:SP"

end PacketSmith.Text.NameTree

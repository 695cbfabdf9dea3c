/-!
# Names of characters that start with `C`

The names as a tree of words, in the form that `Text.CharacterName` describes.
-/

namespace PacketSmith.Text.NameTree

/-- The names that start with `C`. -/
def namesInC : String :=
  "CA:CTUS:DA_UNA:DUCEUS:LENDAR:LL_ME_hn:MERA[w_FLASH]CA:MPING:N:NADIAN_SYLLABICS(
A::A:AI:AY:I:IVILIK_B:N:THAPASCAN(M S)AY BEAVER_DENE(L R)BIBLE-CREE_Y BLACKFOOT(A E I K:A:E:I:O
N:A:E:I:O O S W::A:E:I:O)C CA::A:AI:RRIER(CH:A:E:EE:I:O:U DEN:E_GEE:TAL_S DL:E:EE:I:O:U
DZ:A:E:EE:I:O:U EE GAA gh GH:E:EE:I:O:U GW:A:U H HW:A:E:EE:I:O:U ii_Z JJ:A:E:EE:I:O:U JWA kz
KH:E:EE:I:O:U KK::A:E:EE:I:O:U LH:A:E:EE:I:O:U NG P::A:E:I:O:U R:A:E:I:O:U SH TLEE TLH:A:E:EE:I:O:U
TSEE TT:A:E:EE:I:O TTS:A:E:EE:I:O:U TTU Z::A:E:I:O:U &118 &175)C:E:HI_s:I:II:O:OO E::ASTERN_W:N
F::A:AA:AAI:E:I:II fi(bt_ha_ri d(ac sh_v_STROKES)dw_tc j_dz p r:a_dz:_ha_ri:i sh_h_t z_ri ug_ha_ri
&21)FO::O fu_sz gl_sz HK hy I::I:N K KA::A:AI:Y K:E:I:II:O:OO:W:WAY LA:AI:Y LH::A:AA:I:II:O:OO LI::I
MA::A:AI:Y ME md(L R)MH MI::I MO::O:OSE-CREE_SK N N-CREE(TH:E:I:II)NA::A:AI:SKAPI(CWAA KWAA MWAA
NWAA S:-W:CWA:KW:KWA:PWA:TWA:WAA TWAA WAA WOO YWAA)NATTILIK(H:A:AA:I:II:O:OO SHR:A:AA:I:II:O:OO)
N:AY:E:G ng NG:AA:AAI:AI:I:II:O:OO NH NI::I NNG::A:AA:I:II:O:OO NO::O:Y NUNAVIK(H::A:AA:E:I:II:O:OO)
NUNAVUT_H NW:I:II:O:OO O OJIBWAY(C K M N NW:I:II:O:OO P S SH T)O:N:O:Y PA::A:AI:Y
P:E:I:II:O:OO:OY:WOY Q QA::A:AI:I QI::I QO::O R-CREE(RE RWE)RAA::I R:AY:II:OO RW:A:EE:I:II:O:OO S
SA::A:AI:Y:YISI(H:A:E:I:O:OO JI JU::U M SH:A:E:I:O:OO:WE TH YI)SE SH::A:AA:AY:E:I:II:O:OO:OY:WOY
SI::I SO::O:UTH-SLAVEY(K:AH:EH:IH:OH)SOY SP:A:E:I:O SW T TA::A:AI:Y TE TH::-CREE(
TH::A:AA:E:I:II:O:OO)TH:A:AA:E:I:II:O:OO:WA:WE TI::I TLH:A:E:I:O:OO:WE TO::O TT:A:E
TTH::A:AA:E:I:O:OO:WE TT:I:O TY:A:E:I:O WAY WEST-CREE(&141)ws_W WOODS-CREE(fi_TH TH::A:E:I:O
THW:A:AA:EE:I:II:O:OO)Y-CREE(COO KOO LOO MOO NOO OO POO PWAA SOO TOO W YOO)YA::A:AI:Y YE YI::I
YO::O:Y &141)CANCEL[ch TAG]CAN:CELLATION_X:CER:DLE:DY:NED_FOOD:OE CA:PITULUM:PRICORN:R_SLIDING:RD(
FILE_bj id[DIVIDERS])CARE:_OF:T[ib_pn]CARIAN_l(A2 C-:18:39 D2 E2 G G2 II K2 L LD::2 MB MB2~4 N:D:G:N
P2 R RR S:H:H2:S:T:T2 TT::2 UU UUU::2:3:U X &3 &66)cq
CAR:OUSEL_hj:P_STREAMER:PENTRY_SAW:RIAGE_RETURN:ROT CA:STLE:T[fa[w(TEARS_OF_JOY WRY_SMILE)]]
CAUCASIAN_ALBANIAN(CITATION_m l(ALT AOR BET CA:R:YN CH:A:AT:I:OY CYA:W:Y D:AT:YAN:ZAY:ZYAY EB EYN
FAM GHEYS GIM HEYT I:NYA:RB:WN JAYN JHOX KAR KIW LAN LYIT MAQ NOWC ON PEN PIWR QA:R:Y RAT SEYK
SH:A:AK:OY T:AS:IWR:YAY VEYZ XEYN YAYD YOWD ZARL ZH:A:IL))C:AUTION_s:CH:EDI_s ck CE:LTIC_cs:NT_s
ce_lz_y CENTRELINE(lw_lz ol)CERES CGJ CHA:INS:IR:KMA(AU_m l(AA BHAA DHAA E GHAA I JHAA KHAA LHAA
NGAA NNAA TTAA U YYAA &185)MAAYYAA O_m s(&40 &78)vi vo_s(A AU E EI O OI &4)&7 &44 &49 &50)CHAM(cn_s(
fi(H M NG)LA RA WA YA)l(AI BBA yi CHHA DDA xc E fi(CH G K L N NG P R SS T Y)GA gh I JA jh MUE ng
NGUE NH:A:JA:UE NUE O PPA RA uw U VA YA &13 &61)u(SPIRAL tp_dd &44)vo_s(A:A:I:U EI I II O OE U UE)
&7)ch(tb[SET w_ja]TIE)CHART_w(do_TREND up_TREND[q_YEN_s])CHECK:_m:ER_BOARD[fz]
CHE:ERING_MEGAPHONE:ESE_WEDGE:QUERED_fg:ROKEE(l (&118 &178)z_l(&118 &178))
CHE:RRIES:RRY_BLOSSOM:STNUT CHI:_zw:CKEN:LD:LDREN_cr:PMUNK:RON CHO:COLATE_ba:PSTICKS:RASMIAN(l( ul
vw vx CURLED_ww qw GIMEL HE::TH kg ld xj nn PE rh SAMEKH qn z_ul TAW ww YODH zy)nu(fo &5
&63))CH:RISTMAS_uj:URCH CINEMA k(zf_BY_h_ba_q_ug_ha_zf_BY_v_ba w( ALL_BUT_ue_f_qd_bl h_ba lo_ha_bl
z_k_TO_qi_r SUPERIMPOSED_X tw_h_STROKES_TO_qi_r ue(ha_bl r_qd_bl) v_fz &59))cc(ai_a
ANTICLOCKWISE-ROTATED_dk_s as_op bv_X bu C:_w_od_bc:C:D cs(FORMEE[w(fo_dt tw_dt)]POMMEE)cr_LANES dh
dk(s sk)xd_s_w_od_bc dz_op ea HANGUL(CIEUC[A]IEUNG[A U]&163) he_wh_i_a h_ba_w_NOTCH HUMAN_FIGURE
IDEOGRAPH(A:CCEPT:DVANTAGE:TTENTION ce CO:PY:RRECT EXCELLENT fj hh ITEM KINDERGARTEN KOTO lw mb
MEDICINE NIGHT PRINT qe RELIGION S:CHOOL:ECRET:UITABLE &6 &2 &165) INFORMATION_SOURCE ia_lx_ca_l(C
R)kk(HA KA MA NA RA SA TA W:A:E:I YA &3 &123)KOREAN_ch(CHAMKO JUEUI) mi ml_s_w_ci_ae nu(ej_ON_bl_sq
ff[ON_bl_sq]xe[ON_bl_sq &6]jp_ON_bl_sq xx_ON_bl_sq tq[ ON_bl_sq]jz[ON_bl_sq &6]ty[ON_bl_sq
&6]&72)oe_ce_eg_pi_sa pz PERPENDICULAR p POSTAL_m rv_so ri_op sq x n[dw]v_ba wh(bu sa)WZ X ze_w_sk
&7 &47 &108)CIRCULATION_FUNCTION ci_ae CI:RCUS_TENT:TYSCAPE[AT_DUSK]CJK(rl(bj BRUSH(on
tw)C-SIMPLIFIED(ln SILK TURTLE &182)CHOKE CIVILIAN EAT(on &5)EWE GRASS(on &5)ht(on
tw)J-SIMPLIFIED(qx EVEN TOOTH TURTLE)KNIFE(on tw)LAME(fo on &5) ln(on tw)MESH MO:THER:UND(on
tw)NET(fo on &5)PAW(on tw)ps RAM rj xs(on &5)SIMPLIFIED( ha_uj_TRUNK hx WALK WHEAT YELLOW)z(on
tw)SN:AKE:OUT(on tw)SPIRIT(on tw)THREAD WALK(on tw)wz(on tw) we(on tw)&156)t(BXG D H::G:P:PWG:XWG
HZ::G:T:W:WG HZZ::P:Z:ZG N P::D:G:Z Q S::G:P:T SW::G:Z SZ::WG:Z T TN WG
XG))CLA:MSHELL_MOBILE_PHONE:PPER_BOARD:PPING_hs_s:SSICAL_bd CL:EAR_xr_y:INKING(BEER_MUGS
GLASSES)CL:IPBOARD:OCK_fa(eg_oc EIGHT-THIRTY ez_oc ELEVEN-THIRTY fv_oc FIVE-THIRTY fo_oc FOUR-THIRTY
nx_oc NINE-THIRTY on_oc ONE-THIRTY sv_oc SEVEN-THIRTY SIX:_oc:-THIRTY tq_oc TEN-THIRTY th_oc
THREE-THIRTY TWELVE:_oc:-THIRTY tw_oc TWO-THIRTY)jb(ie r_q_f_ju_aw i_q_le_oe_k_aw[
w_cc_on_or]tr_oe_k_a &172)CLOSE_UP cx(BOOK it_w_SERIFS LOCK_w_KEY MAILBOX_w(LOWERED_fg ra_fg)sb[
OR_eq_TO]ss[OR_eq_TO]ub ui_w_SERIFS[q_SMASH_pd])wc[w(vh RAIN SNOW TORNADO)]CLOWN_fa
CO:AT:CKROACH:CKTAIL_GLASS:CONUT:FFIN:IN:LLISION_y cl[ea s]co(ac(ae[e]tn_m)ACUTE-:GRAVE-ACUTE:MACRON
vu_eq_TO(&1)ANNUITY_y ai(a_b ri_or)as(&1)BINDU_e br[e]BR:EVE-MACRON:IDGE(&1)cq[e]ck ci_ae[e] jb(a_b
ri_or)cm(b[r]e)CONJOINING_ma[e]wq(df_PNEUMATA hu(mn_s tz_s)kv l(A CHE E:L:M:N:R:S:S-TE GHE HA
I::E:OTIFIED(A BIG_ys E)KA O om PE SOFT_s TE U YERU ZE ZHE &186)mn_s PA:LATALIZATION:YEROK POKRYTIE
px_PNEUMATA tq_mn_s to_mn_s TITLO[f_ha r_ha]VZMET) DE:LETION_m:VANAGARI(l(A KA NA PA RA U VI)s_av
&7)da[e]DIAERESIS-RING dz(b[&2]e[f])de(ac_ae ga_ae)d( ac_ae br[e]ci_b ga_ae in_br[e]lw_lz
ma[e]oe_m_e ol PARENTHESES_b p_s (&1)i_a_e ri_e ti[f_ha r_ha]v( lz(&1)t_or))zh_ci_ae dw_tc_e do_a
ENCLOSING(k[bc]dm KEYCAP xr sq UPWARD_po_n)ea_s_e FERMATA fo_dt_b GLAGOLITIC_l(z_ys
&115)GRANTHA(dg(fv fo on np ze &5)l(A KA NA PA VI))GRAPHEME_jo ga(ae[e]
tn_m)GRAVE-:ACUTE-GRAVE:MACRON ge(dy_kq KORONIS ms(PENTASEME TETRASEME TRISEME)pe yp)HOMOTHETIC_b
ho_b hx if in(br[e]BRIDGE_e d_ARCH(&1))IS_e kt(&135)kv_b(&2)lx(l_z_ca(G L M N R)z_l(A[w_da]AE ax AO
AV B by C[ck]D E::SH:TH F fb_oe_A_b G H I iu(D G R T)K L[w_d_j_ti]ln_S M N O[w(lg_cw_t &9)] P R[e
rd]S uu T td_W_e U[w(lg_cw_t &9)]V W[e]X Z))f(ag(&1)a(&1)ar(&1)ha_ri(&1)hr_b pa(b_f e_f)
r_a(&1)tc_e)le(a_or hr_w_bb_do)la(f_ha[e]r_ha[e])lg_cw_t_e ln(d_so_or so_or t_or v_lz_or)lw_lz ma[e
f_ha[e]r_ha[e]]MACRON-:ACUTE:BREVE:GRAVE mi_s_e nj_ti_b nu_s_b og[b]of_PERMIC_l(AN DOI NENOE SII
ZATA )oe_m_e ol PA:LATALIZED_ho_e:RENTHESES(or &1)p_s(&1)r:t_ho_e:v_so_or:e_cm_b:(a(&1)ar(q(dw_ar_e
UP_ar_e)&1)ha_ri(&1)hr_b pa(b_r e_r)tc_e)i_hr_w_bb_do ri(or &1)SEAGULL_e sh(so_or t_or v_lz_or)
SNAKE_e sq(e BRACKETS_b)STRONG_cw_t_e SUSPENSION_m ti[e f_ha_e or r_ha_e]tp(ac_ae dz UNDERDOT)
td_cm_b UP_tc(&1)up_a_e UR_b US_b v(lz(&1)ti)WIDE(BRIDGE_b in_BRIDGE_e)wg_lz_e X(&1)X-X_e zi(&1 )&40
&77)COMET cm COMMERCIAL(AT mi_s)COMP:ASS:LEMENT cp_y COMPRESSION
CON:FETTI_bz:FOUNDED_fa:FUSED_fa:GRUENT_w_dz_b:ICAL_TAPER:JUNCTION:STRUCTION(s WORKER)CONTAINS(AS(
xk nl_qo[OR_eq_TO])w(ln_h_t &110))CONT:INUOUS_UNDERLINE_y:OUR_ie:ROL(KNOBS SEQUENCE_ij)
CONVENIENCE_STORE COOK:ED_RICE:IE:ING COPTIC(ca_l(&142)co(NI_b SPIRITUS(ASPER LENIS ))EPACT(tz_m
&167)fr_on_ha fu_sz MORPHOLOGICAL_dv of_NUBIAN(DIRECT_qe_m fu_sz INDIRECT_qe_m VERSE_dv)z_l(&142)y(
KAI KHI_RO MI_RO PI_RO SHIMA_SIMA STAUROS TAU_RO))
CO:PYLEFT_y:PYRIGHT_s:RAL:RNISH_VERSE_dv:RRESPONDS_TO:UCH_q_LAMP COUNT:ERBORE:ERSINK:ING_ROD(
TENS_dg(&6)UNIT_dg(&6))CO:UPLE_w_ht:W[fa]CR::AB:EDIT_CARD:ESCENT_mz:ICKET[BAT_q_bz]CRO:CODILE:ISSANT
cs(m OF(JERUSALEM LORRAINE)PATTY_w(f_CROSSBAR r_CROSSBAR)POMMEE[w_HALF-CIRCLE_e])gj(FLAGS
nv_su_lx_ca_l_P SWORDS)cr_LANES CR:OWN:UTCH:UZEIRO_s:YING(CAT_fa fa)CRYSTAL_bz CSI
CU:BE_ROOT:CUMBER:NEIFORM(NUMERIC_s(eg(az va_o(USSU::3)&82)ELAMITE(ff xe on_tv tw_jf)fv(az[
te]BAN2[va_o]BURU GESHU SHARU SIXTHS_dq &82)fo(az[te]BAN2[va_o]BURU GESHU SHARU va_o(LIMMU[A B]
LIMMU4)&82)NIGIDA:ESH:MIN nx(az va_o(ILIMMU[A]ILIMMU:3:4)&82)of_ASSYRIAN_on(qa SIXTH)on(BAN2 BURU
ei_az ESHE3 GESH:2:U ha_GUR qa(az GUR)SHARU tv(dq va_o_A))sv(az va_o(IMIN(A B)IMIN3)&82)
SHAR2_x_GAL_p(dq MIN)np(az[te]va_o_ASH9 &82)th(az[te]BAN2 BURU[va_o]dq GESH:2:U SHAR2[va_o]SHARU[
va_o]va_o(ESH:16:21))tw(az[te]BAN2 BURU ESHE3 GESH:2:U SHAR:2:U jf(dq va_o_A)))u_s(di(cl QUADCOLON
TRICOLON)of_ASSYRIAN_wo_dv v_cl)s(A[x(A bm gn_te HA ix ly_gu MUSH SAG)]A2 AB[gu x( vv DUN3_gu GAL
gn_te HA ix_gu IMIN lb nn[te]SH:ESH:U2 U_p_U_p_U)]AB2[x(A BALAG gn_te ME_p_EN SHA3
jy)]AD[x_ef]AK[x(ERIN2 SHITA_p_gi)]AL [x(AL DIM2 gi HA KAD3 KI qt USH)]AL:AN:EPH AMAR[x(KUG
qt)]AN[ov_AN p_NAGA(oo_AN_p_NAGA su)th_x]A:NSHE:PIN:RAD[x_kx]ARKAB ASAL2 az[KABA_te ov_az(ov_az[
cr_az_ov_az_ov_az]yd_ov_yd_yd_ov_yd_pu)ZIDA_te]ASH:2:GAB BA::D[x_dq_te]BA:G3:HAR2[x(AB2 NI
ZA)]BAL[ov_BAL]BALAG ba BARA2 BI[x(A gz ix_gu)]BU[cr_BU ov_BU(AB x_NA2 UN)]BULUG[ov_BULUG]BUR::2 DA[
x_jy]DAG[KISIM5_x(A_p_MASH AMAR BALAG BI GA[p_MASH]GI::R2 GUD HA IR[p_LU]KAK LA LU[p_MASH2]LUM NE
pu_p_pu SI jy U2_p(GIR2 MASH)USH)x_kx]DA:G3:M:R:RA3:RA4 DI::B:M[x(ix qt U_U_U)]DIM2 [x_UD]DIN[
ka_U_gu_dq]dq[p_SHU]DU[gu ov_DU gq]DUB[x(ef qt)]DU:B2:G[x(ANSHE az[AT_f]DIN DUN ERIN2 GA GI::R2_gu
gi HA HI ix_gu k:a:x:u[p_ka]LA:K-020:M[x_kx]LUH_p_gi M:ASH:ES:I NI PI qt SI_gu)]
DU:GUD:H:N:N3[gu[gu]]DU:N4:R2 E[ov_E_nn_ov_nn x_pu]E2[x(A_p_HA_p_DA gz kx MI pu SAL qt U)]
E:DIN:GIR:L:N[cr_EN oo_EN su x(gn[te]ME)]ER:EN:IN2[X]ef[cr_ef]EZEN[gq_x(az HI ix_gu LA::L ME::S
SU)x(A[p_LAL[x_LAL]]AN bm DUN3_gu[gu]GUD HA[gu]ix_gu ka[su]KU3 L:A:AL_x_LAL:I:U qt SU U2 UD)
]GA[gu]GA2[ov_GA2 x(A_p(DA_p_HA HA ix)AB2_te_p_TAB AN[p_KAK_p_A]az vv[p_GAL]BA:D:HAR2 ba_p_RA BUR[
p_RA]DA DI::M(gu x_qt)DU:B:G_x(ix_gu ka)EL[p_LA]EN[x_gn_te ]EREN GA gn_te gz[p(DI NE)]GI::4[p_A]
GIR2_p_SU HA_p(A LU_p_ef)HAL[p_LA]HI_p_LI HUB2 ix_gu ISH_p_HU_p_az KAK ka KID[p_LAL]KU3_p_AN ku_p_ka
LA::M[x_kx]LUH M:E_p_EN:I:USH NE[p(E2 GI)]nn[ov_nn]PA SA:L:R qt[p_TUR]SHI:D:M SUM jy U
UD[p_DU]ZIZ2)]GABA[cr_GABA ro_ni_dx]GAD[ov_GAD_gz_ov_gz]GAL[GAD_ov_GAD_gz_ov_gz]GA:LAM:M:N gn[cr_gn
ov_gn te]gz GA:R3:SHAN GE:22:SHTIN[x(kx U)]GI[cr_GI x(E U)]GI4[cr_GI4 ov_GI4]GI:DIM:G:R2[gu]GIR3[x(
A_p_ix gn_te ix LU_p_ix PA)]GISAL gi[cr_gi te x(bm gi_cr_gi jy)]GU[cr_GU]GU2[gu x(ix_gu KAK[
x_ix_gu]nn SAL_p_yd)]GUD[ov_GUD_LUGAL p_gi_x_jy x(A_p_kx kx)]GU:L:M[x_qt]GUR::7:UN:USH HA[gu
te[gu]]HAL HI[x(az[ov_HI_x_az]vv bm dq GAD KIN nn qt U)]HU::B2[x(AN HAL ka LISH UD)]HU:L2:SH I[ A]IB
IDIM[ov_IDIM(BUR su)]IG ix[DIB gu ov_ix_SHIR_ov_SHIR_UD_ov_UD RI]IL[x_gn_te]IL2 IM[cr_IM oo_IM su
x_jy]I:MIN:N:R:SH KA[x(A AD[p_KU3]ANSHE ASH:2:3 BA:D:LAG ba BI BU ERIN2 ef GA::L gn_te gz[
p_SHA3_p_A]GI::R2 gi[cr_gi p_SAR]GU::D:R7 HI_x_vv ix IM KA::K KI::D LI LU::M ME[p(DU GI TE)]MI[
p_NUNUZ]NE nn PA PI RU SA::R SH:A:E:ID:U:UL SIG SUHUR TAR TU U[U_U]U:2:D:MUM_x_PA:R:R2:SH ZI )]KA2[
cr_KA2]KAB KAD2~4 KAD5[ov_KAD5]KAK[x_ix_gu]KAL[cr_KAL x_bm]KA:M2:M4:P_ELAMITE ka[lb_x_U_ov_lb_x_U
ov_ka_lb_x_U_ov_lb_x_U]KESH2 KI[x(bm U UD)]KI:D:N:SAL:SH:SIM5[ov_KISIM5]KU[
ov_HI_x_vv_KU_ov_HI_x_vv]KU:3:4[va_o]KU:7:L[gu]KUN kx[oo_kx]ku KWU318 LA lb[su x(A[p(DA_p_HA gz
LAL)]AL AN az_ZIDA_te bm BI DAR EN GA gz GI GUD[p_GUD]HA::L HI_x_nn ix_gu IM[p(HA LU)]KI::N KU:3:L[
p_HI_p_A]lb LISH LU::L ME[p_EN]MUSH NE SH:E_p_SUM:ITA_p_gi(p_ERIN2 te)SHU2[p_SHU2]SUM TA:G:K4
TE_p_A_p_SU_p_NA U[p(A U_p_U)]U:2_p_az:D:SH ZU_ov_ZU)]ly[gu[ov_ly_gu_qt]x_qt[p_SUM]]LAHSHU
LAK-0:03:21:25:30:50:51:62:79_ov_LAK-079_gu:80:81_ov_LAK-081:92 LAK-1:30:42
LAK-2:10:19:20:25:28:38:65:66 LAK-3:43:47:48:83:84:90 LAK-44:1:9[x(GU ix pu_p(LU3 pu_p_LU3)
U2_p_BA)]LAK-4:50:57:70:83:90:92:93:95 LAK-:550:608:617[x(az bm DUN3_gu_gu KU3 LA TAR TE
U:2:D:RUDA)]LAK-6:36:48[x(DUB GA ix[gu]NI pu_p_pu_p_LU3 SHESH_p_KI UD URUDA)]LAK-7:24:49 LAL[
x_LAL]yl[x_kx[p_RU]]LI::L:MMU2:SH LU[x_bm]LU2[cr_LU2 gu_x_az oo_LU2 gq[x_bm]su te x(AL bm dq
ef[p_LAL te]gn_te HAL HI_x_bm IM KAD:2:3[p_az]KI LA_p_az lb ME_p_EN NE NU pu[p_pu_p_LU3]SHU
SI:_p_az:K2_p_BU jy yd)]LU:3:GAL[oo_LUGAL ov_LUGAL gq]LU:H:L:M[ov_LUM[gz_ov_gz]]MA[gu
x_jy]MA:2:H:R:SH:SH2 ME::S:SH MI[p_ZA7]MIN MU[ov_MU]MUG[gu]MU:NSUB:RGU2:SH[cr_MUSH ov_MUSH[x( A_p_NA
GA KAK)]x(A kx ZA)]MUSH3[gu x(A[p_DI]DI ZA)]NA::2:4:GA[in oo_NAGA x_SHU_te]NA:GAR:M[NUTILLU] NAM2
NE[gq x(A UD)]NI[x_E]NI:2:M[x(gn_te gz_p_gn_te)]NIN::9:DA2[x(AN az[p_az]BAL DIM_gu GI gi GU:D:L HI
KESH2 LAK-050 MASH ME_p_gn_te NE nn pu_p_pu qt[p(A_AN az[p_az])]U[p_U]U:2_p_az:RUDA:SH) ]NISAG
NU::11[ov_NU11_BUR_ov_BUR ro_ni_dx te]nn[cr_nn[ly_ov_ly]ly_x(gz MASH SAL[ ov_nn_ly_x_SAL]USH)ov_nn
te]NUNUZ[AB2_x(ASHGAB BI DUG GUD ix_gu KAD3 LA NE SILA3 U2)KISIM5_x_BI[ U]]PA::D:N:P
PESH2[as]PI[cr_PI x(A AB BI BU E I IB U U2)]PIR:2:IG[oo_PIRIG x(KAL UD ZA)]R:A:AB:I:U
SA::G[gu[x_HA]NUTILLU ov_SAG x(A DU::B EN HA ix_gu KAK kx LUM MI nn SAL SH:E_AT_f:ID TA:B:K4
U:2:B:M:R:SH)]SAL[lb_x_vv]SA:NGA2:R SHA::3[x(A bm gi NE SHU2 TUR U[p_A])]SHA6[te]SH:AB6:AR2:E[HU
ov_qt[GAD_ov_GAD_gz_ov_gz TAB_ov_TAB_gz_ov_gz]p (HUB2 NAM2 SAR)]SHE:G9:N SHESH::2:LAM SHID[x(A IM)]
SHIM[x(A BAL BULUG DIN gz ix[gu]ku LUL MUG SAL)]SHI:NIG:R[ov_SHIR_BUR_ov_BUR te]SH:ITA:U[ov_in_SHU]
SHU2[p(DUG_x_NI E2_x_AN)]SHUBUR SI[gu x_jy]SIG::4[ov_SIG4_SHU2]SI:K2:LA3 SU[ov_SU]
SU:D:D2:HUR:M:MASH:R:R9 TA[as gu x(HI MI)]TAB[ov_TAB_NI_ov_NI_dq_ov_dq su]TAG[x(BI GUD SH:E:U yd
UD)]jy[p_SAG]TAR TE[gu]TI[te]TI:2:L:R[ov_TIR[GAD_ov_GAD_gz_ov_gz]x_jy]TU::G2:K:M[x(gn_te th_dq)]
TUR[ov_TUR_ZA_ov_ZA]U[GUD ov_U(PA_ov_PA_gz_ov_gz SUR_ov_SUR U_re_ov_U_re)U[U]]U:2:B:D[gu ku gq[
x_bm]x(bm MI U_p_U_p_U[gu])]UDUG UM[x(lb ME[p_DA]SHA3 U)]UM:BIN:UM[x(ka PA)]UN[gu]UR[cr_UR gq]UR2[in
x(A_p(HA NA)AL HA nn U2[p(az BI)]UD)]UR:4:I:I3:U[x(A ASHGAB ba DARA3 DUN GA::L gn_te gz GU HA ix IM
ISH KI LAK-668 LU:3:M MIN PA qt SIG4 TU U:_p_GUD:D:RUDA)]URUDA[x_U]USH[x(A KU kx jy)]USH:2:UMX:X
UTUKI UZ3[x_ka]UZU ZA[su_x_kx te]ZA:7:G:MX ZE2 ZI[ov_ZI]ZI:3:B[KABA_te]ZI:G:Z2 ZU[
ov_ZU_p_SAR]ZU5[x(A th_dq_te)]ZU:BUR:M))CUP(ON_bl_sq w_STRAW)CU:PCAKE:PIDO:RLING_STONE cy(c_et lc(q
OR)lp)qk(EXCHANGE s)CURRY_q_RICE cv_uc_pg_s_g CUST:ARD:OMS CUT_OF_MEAT
CY:CLONE:LINDRICITY:PRIOT_sy(JA JO KE LI MI PE RI TU U WI WO XA XE ZA &13 &188)CYPRO-MINOAN_s(
CM00:1:2 CM004~013 CM01:2B:5:7:9 CM021 CM023~030 CM033~041 CM04:4:6:7 CM049~056 CM058~064 CM066~076
CM075B CM078~092 CM094~105 CM107~110 CM11:2:4 CM30:1:2)wq(ca(l(&187)la(A_IE EN_GHE TE_TSE))kv
l(MULTIOCULAR_O PALOCHKA z_ca_EL)PAYEROK z(l(LONG-LEGGED_DE NARROW_O PALOCHKA ru_VE TALL(hw_s TE
YAT)THREE-LEGGED_TE UNBLENDED_UK WIDE_ES &187)la(A_IE EN_GHE TE_TSE))tz_s)"

end PacketSmith.Text.NameTree

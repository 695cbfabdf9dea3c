/-!
# Names of characters that start with `L` to `M`

The names as a tree of words, in the form that `Text.CharacterName` describes.
-/

namespace PacketSmith.Text.NameTree

/-- The names that start with `L`. -/
def namesInL : String :=
  "L_B_ba_y LA:B_COAT:BEL:CROSSE_STICK_q_bz:DDER:DY_BEETLE:NGUAGE_TAG:O(ok_m el HO(MO NO ) KO_LA
l(BO CO DO FO(FAY FON SUNG TAM)HO(SUNG TAM)KHMU(GO NYO)KHO(SUNG TAM)KO LO[LING LOOT]MO N:GO:O:YO O
PALI(yi qh DD:A:HA xc gh jh ll nd ny TT:A:HA)PHO(SUNG TAM)PO RO SANSKRIT(nf uw)SO( SUNG TAM)THO(SUNG
TAM)TO WO YO)NIGGAHITA SEMIVOWEL_s(LO NYO)s_PALI_vi tn_MAI(CATAWA EK THO TI)vo_s( A::M:Y E EI
MAI(KAN KON)O Y YY &4)&7)lr(BLUE(dm &27)BROWN(&27)k dw_tc GREEN(&27)f_n_op on( dz_ov_tw_dt_u
ri_ov_tw_RINGS_u)ORANGE(dm &27)PURPLE(&27)RED(&27)tp_v_ba_op tw(dt_ov_on_dz_u RINGS_ov_on_ri_u)UP_tc
YELLOW(&27))LARGER_THAN[OR_eq_TO]LA:RI_s:ST_qa_mz[y w_fa]lx(ca(l(A[w(&101 &193)]AFRICAN_D ax B[w(fs
ho lz_e yc &39)]C[w(ac ba cq ck[q_ac]&8 &28 &25 &46)]CHI cx_iu_G D[w( ho sh_t_or z_l_Z[w_cq]yc &34
&39 &68)]DZ[w_cq]E[w(ck[q_br]ci[e &80]ma[q(&21)]&105 &39 &9)] E:NG:SH:ZH[re w_cq]F[w(&8 &46)]G[w(ac
br cq ck ma &8 &25 &46 &70)]H[w(br_e cq ck ho &39 &9 &25 &22)] HENG HWAIR I[w(da[q_ac]ma &105 &39
&25)]iq J[w(cd t &25)]K[w(ac ho t[q_di_t]&34 &26 &57 &22 &70)]L[ w(ac ba bw dz_e[q_ma]d_ba hh_t j(dz
ti)z_l_J t &34 &68)]M[w(ac ho &38)]N[w(f_ho ln_r_vg z_l_J ti &34 &21 &38 &68 &22 &70)]O[w(j_ti &101
&159)]oe(E O)P[w(ac fs ho SQUIRREL_tl t[tg_ds]&8)]Q[w(t_tg_ds &57)]R[rd w(&34 &191)]re(C_w_dz E ha_H
oe_E)RUM_rd S[w(&161)]uu sr_G z(ca_I Q_w_ho_tl)T[w(cm_e ho &34 &17 &39 &57 &68)]td(A ax H iu_G K L M
T V)U[ba w(&146)]us V[w(ho ti &26 &57)]W[w(ho &21 &9 &25 &38)]WYNN X[w(&8 &9)]Y[w(ho[b]lp ma ti &39
&21 &9 &25)]Z[w(ac cq ho lz_e SWASH_tl &39 &28 &25 &22)] &139)la(IJ OE))cs EPIGRAPHIC_l(ah_M I_LONGA
in_M re(F P)jw_I)l(yf ALVEOLAR_jj BI:DENTAL_PERCUSSIVE:LABIAL(jj PERCUSSIVE)DENTAL_jj
gl_sz[&36]in_gl_sz[w(cu t)]LATERAL_jj PHARYNGEAL_vd_FRICATIVE rt_jj[w_rt_ho]re(ESH_lp
gl_sz_w_t)SINOLOGICAL_dz z_ca(AE bh_B C ETH EZH F G[w_ho]H in_R J L[w(bw t)]OE oe_O OU R[w_r_vg]re(N
R)RUM td(E G K M R)V W Y Z &3 &66) STRETCHED_C[w_cu]tw_w_t vd_LARYNGEAL_SPIRANT WYNN YR)z(ca_l(I_w_t
U_w_t)l(A[REVERSED-SCHWA w(r_ha_ri &101 &17 &193)]ax[w_rt_ho]B[w(fs ho lz_e yc &33 &39)]bh(ax E
O)BASELINE_ESH BLACKLETTER(E O[ &36])C[w(ac ba cq ck[q_ac]cu &17 &8 &28 &25 &46)]CHI[w_lw(f_SERIF
r_ri)]cx(iu_G om oe_E re_oe_E)D[w( cu ho[q_tl]sh_t_or tl yc &33 &34 &39 &68)]DB_dr DEZH_dr[w(&17
&28)]dl(I J[w_t[q_ho]])d(R[w_cd] THORN WYNN)DUM DZ[dr[w(cu &17)]w_cq]E[w(ck[q_br]ci[e &80]fs
ma[q(&21)]NOTCH &105 &17 &39 &9)]ENG[w( cd &28)]ESH[w(cu d_ba[q_cu]&17 &28)]EZH[re w(cq cu tl &17
&28)]F[w(&33 &8 &46)]FENG_dr[w_TRILL]G[w( ac br cq ck ma &8 &28 &25 &46 &70)]H[w(br_e ho &34 &39 &9
&28 &25 &22)]HV I[w(da[q_ac]ma t[q_rt_ho] &105 &17 &25 &26)]in(ax OE)iq[&36]IOTIFIED_E J[w(cq cd t
&25)]K[w(ac ho t[q_di_t]&34 &28 &26 &57 &22 &70)]KRA L[w(ac ba bw[q_PALATAL_ho]cu dz_e[q_ma]d(ba
j_ti)fh hh_t in_LAZY_S j(dz ri ti)rt_ho[q_bw]t &34 &28 &68)]LAMBDA_w_t LENIS_F ln_S[w(hh_t &8
&57)]LUM M[w(ac cd ho &33 &38)]MUM N[PRECEDED_BY_ap w(cd cu f_ho ln_r_vg ti &33 &34 &17 &21 &38 &68
&22 &70 )]NUM O[w(lw_ri_iz &101 &17 &159)]oe(E[ w_rt_ho]O[w(t &17)]OE)P[w(ac fs ho SQUIRREL_tl
t[tg_ds]&33 &8)]Q[w(ho[tl]t_tg_ds &57)]QP_dr R[rd w( cd fh[q(&33)]ln_vg &33 &34
&191)wu_HANDLE]re(C[w_dz]E ENG ha_H K oe_E[w(ho &17)]R_w_fh sr_G)RUM[rd] S[w(cu &33 &161)]SAKHA_YAT
uu[w(ho &17)]sr(G[w_cd]R[w_ri])jw(DIAERESIZED_U O[&36]oe_O td_M U)SQUAT_re_ESH STIRRUP_R T[w(cm_e cu
ho[q_rt_ho]&33 &34 &17 &39 &9 &57 &68)]TAILLESS_PHI TESH_dr[w( &17 &28)]TH_w_STRIKETHROUGH TUM td(A
AE ax ur E G H[w_fh[q_tl]]I iu_G K L M[w_ln_vg]O_OPEN-O[ &36]OE[w(h_t t)]oe_E R[w(ho
ln_vg[q_rt_ho]tl &33)]T[w_cu]UI V W Y[w_bw])U[ba[w_sh_r_vg]w(f_ho sh_r_vg &146 &17)]U:E:I:M:O
us[&36]V[w(cu ho r_ho ti &28 &26 &57)]W[w(ho ri_b &21 &9 &25 &38)]X[w( ln_f_vg[q_lw_r_ri
w_SERIF]lw_r_ri &8 &9 &28)]Y[w(ho[b]lp ma ri_b sh_r_vg ti &39 &21 &9 &25)]Z[w(ac cq cu ho lz_e
SWASH_tl &33 &17 &39 &25 &22)]&139 &160)la(FF::I:L FI FL IJ ln_S_T OE ST)) vk_z_l(H J K L M N P R S
uu T V X &3))lk_FLUTTERING_IN_wn LE:AFY_GREEN:DGER f(q(lo( q_r_ta_th_qr_bo on_ei_bo)r(d_tt tc
ta_ha_bo)ue(q_r_ta_th_qr_bo on_ei_bo))ag_c[w_dz]yh_ls_c bb( dw_r_bb(dw_hr UP_hr)UP_r_bb(dw_hr
UP_hr))cx_ENTRY d(ag_c pa qu_m wg_FENCE)ha(bl(k sa)bo k[w(dz fo_dt th_dt tw_dt)]fd
iv_me_gd_q_r_ha_bo me_gd RUNNING_MAN)LUGGAGE xo r(a[tg_z_k w(t &74)]d_a[ w(t v_t)]OPEN-HEADED_a tr_a
wa_a &133)n_bs_v_ba WRITING_hn &137)LEFT-FACING(ARMENIAN_ETERNITY_s FIST
SVASTI_s[w_dt])LEFT-HANDED_INTERLACED_pt lf(&203)LEFT-:SHADED_wh_i_a:SIDE_yh_ai_a:TO-RIGHT(
EMBEDDING il m OVERRIDE)le(a[b(rv(&96)sh_i_a &96)q_ue_q_lo_on_ei_bo fm_ba[TO_bl_dm]ov_i_a tg(ls sb
X)TO(ba[ov_i_a_TO_ba]bl_dm)w(de_uc lp p_e tl[w(&74)]TIP(&76)&103 &74 &46)]BOTTOM-SHADED_wh_a hr(
ov_i_hr w_bb(dw(b_i_hr_w_bb_dw e_ln_dh &69)UP(b(le_hr_w_bb_dw ln_dh i_hr_w_bb_UP)&69)&76))tr(a[
ov_i_tr_a &200]&98)wh_a[wt_n_ar]&138)LE:G:MON:O:OPARD:PCHA(cn_s(K KANG L M N NYIN-DO P R T)l(A BLA
qh DDA DZA FA FLA GLA HLA kz KLA LA MLA pv PLA T:HA:SA:SHA:TA:THA VA &18 &55)u(CER-WA
NYET_THYOOM_TA-ROL TA-ROL TSHOOK[CER-WA])s (nk RAN)jd_l(RA YA)vo_s(AA E I O OO U UU)&7)ls(b(
du_eq_b_gr gr_b_du_eq le_a SIMILAR(b_gr OR_eq)sl_eq_b_gr_b_sl_eq)eq_TO_OR_gr OR(qj gr
sl_eq_TO[w_dz(b[r]iz)]&64)&154)L:EVEL_SLIDER:F:IBRA la_oe_ET_g lg(jr_m eg_gg_as fv(&83)
fo_pi_bl(CUSP sa)ge_cs f_tj_jk_c_g RAIL r_tj_jk_c_g S:ALTIRE:HADE:IX_gg_as th_pi_bl_sa qg_pi_bl_sa
v_ba wh_sq)vh[MOOD[bq]]LIMBU(l(yi CA qh xc gh GYAN JA jh kz LA ng pv nf uw vq TRA YAN
&18)s(KEMPHRENG LOO MUKPHRENG SA-I)z_l(an KA LA MA NA ng PA RA TA)jd_l(RA WA YA)vo_s(AI AU EE OO
&3)VOWEL-CARRIER_l &7 &60)LIMITED_LIABILITY_s lz(zk INTEGRATION( nj_INCLUDING_qi_POLE
w(RECTANGULAR_PATH_AROUND_POLE qc_PATH_AROUND_POLE))se tb[SET]) LINEAR(A_s(A028B A1:00-102:20B:31C
A301~308 A309:A:B:C A310~312 A313:A:B:C A314~371
A40:0-VAS:1-VAS:2-VAS:3-VAS:4-VAS:5-VAS:6-VAS:7-VAS:8-VAS:9-VAS
A41:0-VAS:1-VAS:2-VAS:3-VAS:4-VAS:5-VAS:6-VAS:7-VAS:8-VAS A501~506 A508~513 A5:15:16:20:21 A523~532
A534~542 A545 A547~557 A559 A563~566 A568~589 A59:1:2 A594~596 A598 A600~604 A606 A608~624 A626~629
A63:4:7:8 A640 A642~646 A64:8:9 A651~664 A70:1_A:2_B:3_D:4_E:5_F:6_H:7_J:8_K:9_L
A709-:2_L2:3_L3:4_L4:6_L6 A71:0_W:1_X:2_Y:3_om:4_ABB:5_BB:7_DD A7:26_EYYY:32_JE A800~807 AB001~011
AB01:3:6:7 AB020~024 AB02:1F:1M:2F:2M:3M AB026~031 AB034 AB037~041 AB044~051 AB053~061 AB065~067
AB0:69:70:73:74 AB076~082 AB085~087 AB1:18:20:22:23:31A:31B:64:71:80:88:91)B(IDEOGRAM(
B10:0_MAN:2_wm:4_DEER:5_EQUID
B10:5F_MARE:5M_STALLION:6F_EWE:6M_RAM:7F_SHE-GOAT:7M_HE-GOAT:8F_SOW:8M_BOAR:9F_COW:9M_BULL
B12:0_WHEAT:1_BARLEY:2_OLIVE:3_SPICE:5_CYPERUS B13:0_OIL:1_WINE:2 B14:0_BRONZE:1_GOLD:2:5_WOOL:6
B15:0:1_hx B152~154 B15:7:8:9_CLOTH B16:0:1:2_GARMENT:3_ARMOUR B164~172 B17:3_MONTH:4:6_uj B177~185
B1:89:90:91_HELMET B22:0_FOOTSTOOL:5_BATHTUB B23:0_SPEAR:1_a:2:3_SWORD:4:6
B24:0_WHEELED_oq:1_oq:2_oq_FRAME:3_WHEEL:5:6:8:9 B251~253 B254_DART B255~259 VESSEL( B155 B200~219
B22:1:2 B226~229 B250 B305))MONOGRAM(B1:27_KAPO:28_KANAKO:33_AREPA:35_MERI:56_TURO2
B247_DIPTE)sy(B00:1_DA:2_RO:3_PA:4_TE:5_TO:6_NA:7_DI:8_A:9_SE
B01:0_U:1_PO:2_SO:3_ME:4_DO:5_MO:6_QA:7_ZA B02:0_ZO:1_QI:3_MU:4_NE:5_A2:6_RU:7_RE:8_I:9_PU2
B03:0_NI:1_SA:2_QO:3_RA3:6_JO:7_TI:8_E:9_PI B04:0_WI:1_SI:2_WO:3_A3:4_KE:5_DE:6_JE:8_NWA
B05:0_PU:1_DU:2_NO:3_RI:4_WA:5_NU:7_JA:8_SU:9_TA B06:0_RA:1_O:2_PTE:5_JU:6_TA2:7_KI:8_RO2:9_TU
B07:0_KO:1_DWE:2_PE:3_MI:4_ZE:5_WE:6_RA2:7_KA:8_QE B08:0_MA:1_KU:5_AU:7_TWE B09:0_DWO:1_tw)y(
B0:18:19:22:34:47:49:56:63:64:79 B08:2:3:6:9)))LI:NK_y:NKED_PAPERCLIPS:ON_fa:PS:PSTICK:RA_s:SU(l(AE
CA E EU FA GA gh HHA I JA ng O OE nf tn(MYA(BO CYA JEU NA TI)NA_PO)U::E:H WA XA YA YHA &13 &61 &56)
u(&11))L:IVRE_TOURNOIS_s:IZARD:LAMA:OBSTER:OCK[w_INK_PEN]LOCKING-SHIFT(on ze)lc(q[w (d(ob un)h_dh
j_uc un &8)]OR[oa_lc_q w(d(ob un)h_dh j_uc &8)])LOLLIPOP ln(dh_fm_f_xk_OF_d_v dk DRUM f(r(a
d_a)tc)le(a[fm_ba]d_a[fm_ba]xy_a)r_tc i(a[fm_ba]d_a[fm_ba]xy_a))
LO:TION_vz:TUS:UDLY_CRYING_fa:VE(HOTEL l)lw(as BATTERY BRIGHTNESS_y d_pm_qu_m kv[w_dz]lz)lo(
BLADE_jt ha(bo k iv_wh_k me_gd)f(BALLPOINT_PEN CRAYON FOUNTAIN_PEN PAINTBRUSH qc_ai_a
&144)r(yj_wh_sq PENCIL qc_jb_a go_wh(&27)&143) &120)lj[zf_BY_h_RULE]LR:E:I:M:O LU:GGAGE:NGS
LYCIAN_l(A AN BH E EN G H I J KK L MM NN R TH TT U W X Z &66)LYDIAN(l(AN B C D EN F G K L LY M N NN
Q R S SS T TT V Y &3)ta_m)LYING_fa"

/-- The names that start with `M`. -/
def namesInM : String :=
  "ma MAG:E:IC_WAND:NET MAHAJANI(l(E I jh O rr U VA &62)la_SHRI s_nk &35 &50)MAHJONG_TILE(AUTUMN
BA:CK:MBOO CHRYSANTHEMUM es_wn eg_OF(&52)fv_OF(&52)fo_OF(&52)GREEN_qx JOKER nx_OF(&52)nr_wn
on_OF(&52)ORCHID PLUM RED_qx sv_OF(&52)np_OF(&52)sj_wn SPRING SUMMER th_OF(&52)tw_OF(&52)we_wn wh_qx
WINTER)MAKASAR(ANGKA ed_OF_sc l(BA CA DA GA JA ng ny RA SA TA VA YA &13)PASSIMBANG vo_s(E I O
U))MALAYALAM(AU_lt_m DATE_m fr(on(ei FIFTH FORTIETH ha oh qa vj TENTH TWENTIETH)th( EIGHTIETHS qr
SIXTEENTHS TWENTIETHS))l(ah_II CHILLU(K L LL::L M N NN RR Y)dz_REPH EE ll xh NNNA OO rr TTTA
VEDIC_an &62 &87 &20)nu(on(&12)tq)s(av wb_vi co_an_b PARA v_ba_vi &79 &40)vo_s(EE OO
&87)&7)mb(q_fj_s s w_t(q_mb_q_fj_s s))MA:LTESE_cs:MMOTH:N[q_wm_hl_hs DANCING IN(
BUSINESS_SUIT_LEVITATING TUXEDO)w(GUA_PI_MAO TURBAN)]MAN:AT_s:DAIC(AFFRICATION_m gt_m l(
A:B:D:G:H:IN:K:KSA:L:M:N:P:Q:R:S az A:SZ:T:TT:Z DUSHENNA HALQA IN IT KAD USHENNA)u VOCALIZATION_m)
MAN:GO:ICHAEAN(ab_m(&1)l(AAYIN BHETH DHAMEDH FE GHIMEL JAYIN JHAYIN KHAPH QHOPH SSHIN THAMEDH XAPH
XOPH ZHAYIN &43 &81)nu(fv &63)u(dz[wt_dz]d_dz_wt_dz zn lz_fl sa tw_dt)s_UD)
MA:NS_xv:NTELPIECE_CLOCK:NUAL_wl:P_y_fx_LIGHTHOUSE:PLE_lk:RCHEN(hd_m l(-A A qh kz LA pv vq &18 &55
&56)m_gk s(an &40)jd_l(A qh kz LA pv vq &18 &55 &56)vo_s(AA E I O U))
MA:RRIAGE_y:RTIAL_ARTS_UNIFORM:SARAM_GONDI(l(AU E JNYA KSSA ll O TRA &62 &4 &20)RA-KARA REPHA s( gx
hp nk &78)vi vo_s(AU E O vc_R &4)&7)MAS:CULINE_ORDINAL_ic:K_WORK_y:U_m MATE_DRINK mc(bv( ca(oy
tk[y]&67 &71)FRAKTUR(&97)ia(z(fi_gs tk &67 &71)&190)sr(&97)z(oy fi_gs tk &67 &71)&7 &189)db(ca(B D F
G J K L M S T V W X Y &3)z(&67)&7)fk_di FRAKTUR(ca(A E F G J L O U V W X Y &66)z(&67))ia(z(C dl(I
J)F fi_gs G J L R tk V W X Y Z &71 &3 &66)&190)f(&184)MONOSPACE(&7 &97)r( &184)rs_di
sn(bv(ia(z(fi_gs tk &67 &71)&190)z(fi_gs tk &67 &71)&7 &190)ia(&97)&7 &97)sr(ca(A C D G J K N O P Q
S T U V W X Y Z)z(A C F H I J L R U V W X Y Z &66)))MA:XIMIZE:YAN_nm(tq ze &6 &72) MEASURED(ag[oz_f
w_oe_ARM_ENDING_IN_a_po(dw_q(&2)f_q(dw UP)r_q(dw UP)UP_q(&2))]BY r_ag_w_dz)
ME:AT_ON_BONE:CHANICAL(ARM vg)MEDEFAIDRIN(ca_l(AI ATIU HP KP NG NY OE YU &67)dg(eg fv fo nx on [
al_o]sv np th[al_o]tw[al_o]ze)ex_OH nu(tq &72)z_l(AI ATIU HP KP NG NY OE YU &67)y_AIVA &11)
MEDIEVAL(cm &60)me(bl_k bv_wh_k eg(&83)fb(f_pa_g r_pa_g)fo_pi(&99)f(cy_c_g pa_g)lf_ag_c_g mc_sx
r(cy_c_g pa_g)rg_ag_c_g gd np(&83)z_wh_k th_pi(&99)v_ba &106)MEETEI_MAYEK(
A:HANG_KHUDAM:NJI:PUN_IYEK CHEIKH:AN:EI l(ATIYA BA BHAM CH:A:IL D:DA:DHA:HOU:IL E GHOU GOK HUK I[lm]
JHAM JIL KHOU KOK[lm]LAI[lm]MIT[lm]NA[lm]NGOU[lm]nd ny O PA[lm]PHAM RAI S:AM:HA:SA THOU TIL[lm]
TT:A:HA UN WAI ya)LUM_IYEK sy_rq_m vi vo_s(A:AI:AU:NAP:U CHEINAP II INAP NUNG ONAP SOUNAP UNAP UU vs
YENAP)wo_rq_m &7)ME:LON:LTING_fa:MO:NDE_KIKAKUI(co_nu(hu_tz hf mn TEENS tq_tz TENS tz)dg(&6)
sy(M00:1_KI:2_KA:3_KU:4_WI:5_WA:6_WU:7_MIN:8_MAN:9_MUN
M01:0_BI:1_BA:2_BU:3_I:4_A:5_U:6_DI:7_DA:8_DU:9_SI
M02:0_SA:1_SU:2_TI:3_TA:4_TU:5_LI:6_LA:7_LU:8_JI:9_JA
M03:0_JU:1_YI:2_YA:3_YU:4_FI:5_FA:6_FU:7_NIN:8_NAN:9_nn
M04:0_HEE:1_HA:2_HOO:3_NGGA:4_KPEE:5_WO:6_HUAN:7_MBEE:8_KO:9_WVA
M05:0_PU:1_PE:2_HEN:3_HIN:4_LOO:5_TE:6_GBA:7_NGON:8_NYAN:9_MEN
M06:0_NYON:1_WVI:2_MBA:3_JO:4_NDO:5_KEE:6_PO:7_NDOO:8_PI:9_TO
M07:0_GBO:1_GBOO:2_MBE:3_LE:4_KPU:5_FE:6_KOO:7_VO:8_FEE:9_SO
M08:0_YE:1_PEE:2_NGGU:3_HEEI:4_LEE:5_VE:6_ln_NGGE:7_HUN:8_FO:9_DEE
M09:0_NGGI:1_TEE:2_KPA:3_GBEE:4_MON:5_KE:6_HE:7_BE:8_NYEN:9_PA
M10:0_E:1_FAN:2_POO:3_BOO:4_TOO:5_ln_MBOO:6_ln_NGGOO:7_GBE:8_KPE:9_YEE
M11:0_ln_LE:1_GA:2_KPOO:3_JE:4_WOO:5_NGGEE:6_SE:7_NEN:8_WE:9_NDE
M12:0_NGGO:1_YO:2_MBU:3_NDI:4_GBI:5_NDU:6_WEE:7_NGGUA:8_HOOU:9_NDA
M13:0_HAN:1_IN:2_KPI:3_FOO:4_NJOO:5_IN:6_SOO:7_EI:8_BO:9_WVE
M14:0_HO:1_YOO:2_ln_MBO:3_WEI:4_VOO:5_MBI:6_NGGE:7_O:8_GBU:9_NJEE
M15:0_BEE:1_VU:2_NJA:3_LO:4_MUAN:5_GI:6_NGGOO:7_JEE:8_KPO:9_NGGAA
M16:0_JOO:1_ln_MBE:2_SEE:3_EE:4_NYIN:5_OO:6_GUEI:7_GUAN:8_GU:9_NON
M17:0_NYUN:1_RA:2_MBOO:3_VEE:4_MBO:5_ln_JO:6_HI:7_NGUAN:8_EN:9_KUA
M18:0_DOO:1_DO:2_VI:3_ln_NGGO:4_NGEN:5_VA:6_HU:7_MBUU:8_MBEE:9_MUEN
M19:0_GEE:1_NDEE:2_NJU:3_HON:4_WUI:5_AN:6_SIA:7_FUA))ME:NORAH_w_nx_BRANCHES:NS_y:RCURY:ROITIC(
CURSIVE(fr(eg_tf ez_tf fv_tf fo_tf nx_tf on(ha TWELFTH)sv_tf np_tf t:q_tf:h_tf:w_tf)l(ah_SA BA DA E
HHA I kz NE O QA RA SA SE T:A:E:O WA YA &13)lv(IMN RMT)nu(eg[&51]ej_to fv[&51]fo[&51]nx[&51]ni_to
on[&51]sv[&51]np[&51]th[&51]tw[&51]&169))HIEROGLYPHIC(l(BA::-2 DA E HHA I kz NA-2 NE::-2 O QA RA::-2
SA::-2 SE T:A:A-2:E:E-2:O WA YA &13)y(VIDJ::-2)))ME:RPERSON:SSAGE_WAITING:TRICAL(br ln_ov(sh
tw_SHORTS)PENTASEME sh_ov_ln TETRASEME TRISEME tw_SHORTS(jn ov_ln))METRO MIAO(l(AH ah(MA NA ng ZZA)
BRI DDA DLH:A:YA DZ:HA:YI:ZA GA gh GHHA HHA LH:A:YA LYA MHA na N:GHA:HA:NA:NHA ny NYHA PLA QGA
REFORMED(TONE-:1:2 TONE-4~6 TONE-8 TSHA)RTE S:HA:SA:YI TE TLH:A:YA TONE-2~8 TS:E:SA TTA VFA WA YI(
DZHA KA nd PA T:A:SA:SHA:TA)ZS:A:HA ZZ:A:SA:SYA:YA &56 &132)s(ASPIRATION cn_mo_ba REFORMED(
ASPIRATION VOICING))tn(r ug_r &1)vo_s(A::E:EE:HH:N:NG:U E::A:I:N:NG:R:RR IA::N:NG I:E:G:NG:O:ONG:U N
NG O::ER:EY:G:O:U ru(ER::R)UA::N:NG U:EI:I:NG:OG VW W WO Y::I:UI &4))MICR(dh_y ON_US_y)
MICRO:_s:BE:PHONE:SCOPE j(dz tv_wh_r_po_id)MI:DLINE_h_el:LITARY(HELMET mg)MIL:KY_WAY:L_s
MINI:BUS:DISC:MIZE mi(s[IN_n w(cm_b fk_dt rs_dt &26)]ti)MI:NUS-OR-PLUS_s:NY:RROR[bz]MMSP
MOBILE_PHONE[OFF w_i_a_AT_f]MOD:ELS:ERN_PENTATHLON:I(l(ll &62 &87 &20)s(ARDHACANDRA HUVA &79)vo_s(
&87)&7 &35 &44)mo(br_w_in_br l(ac_ae ALVEOLAR_jj ap BEGIN(&89)BILABIAL_jj ca(AE B bh_B C D F G
H[&36]J K L M N OU P Q R re(E N)T V W &3)cf(f_ha_ri r_ha_ri)CHINESE_tn(ya(PING QU RU SHANG) YIN(PING
QU RU SHANG))cl cs_ae wq(EN hw_s SOFT_s)DENTAL_jj dz(h_ba sk v_ba)d(ap pm)dw(ar
tc)ed(&89)EXTRA-HIGH(&93)EXTRA-LOW(&93)GEORGIAN_NAR gl_sz[&36]ha_ta_cl hh(&93)LATERAL_jj f(ar ha_ri
tc)lw(ac_ae dw_ar in_ex_m f(a ar)ma r_ar ri ti UP_ar &93 &111)lo_r_cz_ag ma MID(&93)j(d(ac_ae
ga_ae)ga_ae)mi_s oe_SHELF p_s pm ra(cl dw_a ex_m in_ex_m UP_a)rt_jj_w_rt_ho re(cm gl_sz[&36])
RHOTIC_ho r(ar ha_ri tc)SHELF sh_ea_s z(A::E:IN ax B[w_ho]bh_O by C[w_cu]ca(AA B G[w_ho]H I[
&36]in_R L[w_bw]N OE R U Y)CHI cx(om re_oe_E)D[w(ho[q_tl]tl)]DEZH_dr dl_J_w_t[q_ho ]DZ_dr[w(cu &17)]
E::NG:SH:TH:ZH F FENG_dr G[w_ho]gm ge(gm PHI)H[w(&46)]I_w_t iq J[w_cd]K L[w(bw in_LAZY_S rt_ho[q_bw]
&33)]la_OE M[w_ho]N_w(f_ho &17)O[&36]oe(E O)P Q R[w(fh tl)]re(E gl_sz oe_E )S[w(cu ho)]uu sr_G jw_U
T[w(&17 &28)]TESH_dr tk td(A AE ax H I M[w_ln_vg]oe_E R[w(ho ln_vg[q_rt_ho])]V W Y[ w_bw])U[ba
w_f_ho]us V[w(ho r_ho)]W X Y Z[w(cu &17)]&160)STRESS_q(&89)sp (ha_ta_cl ta_cl)ta_cl td_cm
UNASPIRATED UP(ar tc)US VOICING ya_DEPARTING_tn_m YIN_DEPARTING_tn_m &111))MO:DULO_tw_SUM:NEY(BAG
w_WINGS)MON:EY-MOUTH_fa:GOLIAN(bg[w(d_g g)]cl d_bg_w_g el fo_dt FREE_VARIATION_SELECTOR(fo on &5)
in_bg[w_d_g]l(ALI_GALI(A AH an_on BALUDA CA DA::GALGA:MARU DDA ha(U YA)I in_UBADAMA KA ng nd PA pv
uw TA th_BALUDA TT:A:HA UBADAMA vs_on ZA ZHA)ANG BA qh[w_tw_dt]CHI DA E EE FA GA HAA I JA kz LHA
MANCHU(ALI_GALI(yi CA CYA DDHA xc gh jh LHA ng uw TA TTA ZA ZHA)FA I KA RA ZHA)O OE QA RA
S:A:HA:IBE(ANG qh DA E FA GA::A HA::A I IY JA KA PA RAA nf TA TSA U UE ZA ZHA)TA TODO(ALI_GALI(TA
ZHA)ANG BA qh DA DZA E GA::A HAA I JA JIA KA ln_vo_s MA NIA O OE PA QA TA TSA U UE WA YA)TSA U UE WA
YA Z:A:HI:RA &13)MANCHU(&11 )NIRUGU ro_bg[w(d_g g)]SIBE_sy_BOUNDARY_mx SWIRL_bg[w(d_g g)]
TODO_SOFT_hy tp_bg_w_g td_SWIRL_bg_w_d_g vo_se &7 &11)xm[fa]MONOGRAM_fx(er ya YIN)
MONO:RAIL:STABLE_y MOOD_bq mz(CAKE VIEWING_CEREMONY)MOSQU:E:ITO MOT:HER_CHRISTMAS:OR(BOAT SCOOTER)
MOTOR:IZED_wl:WAY MOUNT_FUJI mt[BICYCLIST CABLEWAY RAILWAY]xn[fa TRAP]mu MO:VIE_CAMERA:YAI MRO(l( A
BA CHU DA::I E EA HA:I:O K:EAAE:HAI:O LA::N MAEM MIM NGI NIN O::L:O PA PHI RI RO SHI T:A:EK:HEA WA
YO)&7 &44)MUCH(&47)MULTANI(l(DDDA E I JJA RHA rr U VA YA &62)&50)xo mp_ms_ns ml(s[IN(d_k f_ha_k
r_ha_k n)w(un &8)]X)MULTISET[ml ui]MUS:HROOM:IC(FLAT_s NATURAL_s SHARP_s)ms(KEYBOARD[w_JACKS] nz
SCORE y(ARPEGGIATO(dw UP)BEGIN(BEAM PHRASE SLUR TIE)BRACE c BREATH_m br BREVIS[rz]C_yy CAESURA
k_X_no CL:IMACUS:IVIS:USTER_no(&37)CODA co(ae ACCENT-STACCATO AUGMENTATION_dz BEND DOIT d_uf dw_BOW
FLAG-1~5 FLIP HARMONIC LOURE MARCATO::-STACCATO RIP S:MEAR:NAP_PIZZICATO:PRECHGESANG_uc
STACCAT:ISSIMO:O uc TENUTO TREMOLO-1~3 tp_uf UP_BOW )C:OMMON_TIME:RESCENDO:ROIX:UT_TIME
DA:_CAPO:L_SEGNO:MP[ALL]xb_bi DE:CRESCENDO:GREE_sk d(bi FLAT SHARP)DRUM(CLEF-:1:2)ei(nz rz)ed( BEAM
OF_STIMME PHRASE SLUR TIE)F_yy[OTTAVA(ALTA BASSA)]FERMATA[e]fi_bi FINGERED(TREMOLO-1~3) FIVE-LINE_sf
FLAT(dw UP)FORTE FOUR-:LINE_sf:STRING_FRETBOARD FUSA(&37)G_yy[OTTAVA(ALTA BASSA)] GLISSANDO(dw
UP)GRACE_nz(NO_sk sk)GREGORIAN(C_yy F_yy)ha(nz PEDAL_m rz)HAUPTSTIMME in_TURN KIEVAN(C_yy
ei_nz_uc(dw UP)ed_OF_pb fi_nz FLAT_s ha_nz qa_nz_uc(dw UP)RECITATIVE_m WHOLE_nz)KORON f_rj_s
LONGA[im_rz xp_rz]M:AXIMA:EZZO:INIMA[bl rz]mz_no(&37)MULTI_rz mp_mq_rz NATURAL(dw UP)NEBENSTIMME
no_bl NULL_no on_hu_TWENTY-EIGHTH(nz rz)ONE-LINE_sf g(STROKE-1~9 STROKE-1:0:1)OTTAVA(ALTA
BASSA)pa_no PEDAL(m UP_m)PES_SUBPUNCTIS PIANO p_no PO:DATUS:RRECTUS[FLEXUS] qa(nz rz tn(FLAT
SHARP))QUINDICESIMA(ALTA BASSA)rj_dt REPEATED(FIGURE-1~3)rv_fi_bi r_rj_s RINFORZANDO
SCANDICUS[FLEXUS]SE:GNO:MIBREVIS(rz &37)SEMIMINIMA(rz &37)SHARP(dw UP)sh_bi si_bi
SIX:-LINE_sf:-STRING_FRETBOARD:TEENTH(nz rz)SIXTY-FOURTH(nz rz)SORI sq(B no(&37))SUBITO TEMPUS(
IMPERFECTUM_CUM_PROLATIONE(im[DIMINUTION-1~3]xp)PERFECTUM_CUM_PROLATIONE(im xp[
DIMINUTION-1]))THIRTY-SECOND(nz rz)THREE-LINE_sf TORCULUS[RESUPINUS]TR n_no(dw(&37)f(&37)r(&37)UP(r(
&37)&37))TRIANGLE-ROUND_no_dw(&37)TURN[sk UP]TWO-LINE_sf VIRGA VOID_no WHOLE(nz rz)w_FINGERNAILS
X_no Z))M:VS:W:YANMAR(cn_s(md(HA RA WA YA)MON_md(LA MA NA)xu_md_WA)l(AITON_RA AU E EASTERN_PWO_ke(
GHWA nd YWA)GREAT_SA I II jh ki(CA qh DD:A:HA xc FA GA HA HHA JA jh ll NA ny RA SA TT:A:HA XA ZA)ll
MON(BB:A:E E jh ng)ng NNYA O RUMAI_zt_FA SGAW_ke_nf SHA::N(A BA yi CA qh DA FA GA gh HA jh KA kz NA
nd ny pv vq ZA)SHWE_zt(qh nf)uw TAI_LAING(BA yi D:A:DA:DHA:HA FA GA gh JA jh ll nd ny)U UU WA
ws_PWO_ke(PWA vq)YA &62 &86)lv_ki(HM OAY QN)mo_l(ki_yo xu_yo)xu_dg(ze &6)s(ASAT ki(TONE-:1:3)li_sc
PAO_ke_tn RUMAI_zt_TONE-5 sc xu(COUNCIL(EMPHATIC_tn TONE-:2:3)SAW
TONE-:2:3:5:6)TAI_LAING(TONE-:2:5)ws_PWO_ke(TONE-1~5)&79 &26) y(AFOREMENTIONED AITON(ex on
tw)COMPLETED GENITIVE LOCATIVE xu(ex on))TAI_LAING_dg(ze &6) tn_m_SGAW_ke(HATHI KE_PHO)vo_s(AITON (A
AI)E[b]GEBA_ke_I KAYAH(EE OE U)MON(II O)SGAW_ke_EU xu(AA E[b]fi_Y)TALL_AA ws_PWO_ke(EU UE)&4 &86)&7)"

end PacketSmith.Text.NameTree

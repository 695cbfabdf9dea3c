/-!
# Names of characters that start with `D` to `G`

The names as a tree of words, in the form that `Text.CharacterName` describes.
-/

namespace PacketSmith.Text.NameTree

/-- The names that start with `D`. -/
def namesInD : String :=
  "wx[KNIFE w(f_GUARD r_GUARD)]DA:LET_y:NCER:NGO:RK(gd SUNGLASSES)dh(y w_f_UPTURN)xb( lw_lz ol
tr_i_a)DATA_LINK_ESCAPE DC1~4 DCS DEAF_ps DECI:DUOUS_uj:MAL(EXPONENT_y se_KEY_y)
DE:CREASE_FONT_SIZE_y:ER:GREE(CELSIUS FAHRENHEIT s)DEL::ETE:IVERY_TRUCK:TA_eq_TO DENTISTRY_y_lg (
dw_q_h[w(k n wa)]UP_q_h[w(k n wa)]v(q(bt(&2)ug(&2)wa)w(k n)))DE:PARTMENT_STORE:RELICT_HOUSE_bd
dc_NODE DESERET(ca_l(&166)z_l(&166))DESERT[ISLAND]DESKTOP(wd WINDOW)DEVANAGARI(ac_ae um GAP_fl ga_ae
hq JAIN_OM l(AW AY BBA gx(A E O)DDD:A:HA FA GGA GHHA gl_sz he_YA JJA KHHA ll xh MARWARI_DDA NNNA OE
OOE QA RHA rr sh(A E O)UE UUE YYA ZA ZHA &62 &87 &20)OM s(av cb[av vi &5]d_cb_vi hh_SPACING_dz in_cb
nk PUSHPIKA jq SPACING_cb &79)STRESS_s(au UDATTA)vo_s(AW AY gx(E ln_E O)OE OOE ph_E sh(E O)UE UUE
&87)&7 &35 &44)DEVICE_zb(fo on STRING &5)DIAMETER_s dm(op SHAPE_w_A_dz_iz TARGET w(bt_ha_bl ug_ha_bl
&59))DIE(FACE-1~6)DI:ESEL_LOCOMOTIVE:FFERENCE_be dg(eg[
&11]fv[&11]fo[&11]nx[&11]on[&11]sv[&11]np[&11]th[&11]tw[&11]ze[&11])DIGRAM_fx(er EARTHLY(hc
HUMAN)GREATER(ya YIN)HEAVENLY_er HUMAN_er LESSER(ya YIN))DI:MENSION_ORIGIN:NGBAT(cc_sn(nu_tq &7)
nv_cc(dg(&6)nu_tq sn (nu_tq &7)))DIRECT(zc_y_o_tw HIT)DISA:BLED_CAR:PPOINTED(BUT_RELIEVED_fa
fa)DI:SCONTINUOUS_UNDERLINE_y:SGUISED_fa:TTO_m:VES_AKURU(d_dd ed_OF_qq_m GAP_fl ii_RA l(AA yi
DD:A:HA xc E GA gh I II ll nd O RA uw TTA U UU VA YA YYA ZA &13 &61 &55)md(RA YA)PREFIXED_NASAL_s
s(an hp nk &40)vi vo_s(E O &4)&7)DIVI:DES:NG_MASK dk(s sk x)DI:VORCE_y:YA_LAMP:ZZY(fa y)
D:LE:NA_d_HELIX:O_nj_LITTER_y:OCUMENT[w(zu qq[q_zu])]DO:DO:ES_nj(CONTAIN_AS(xk
nl_qo[OR_eq])DIVIDE[w_re_NEGATION_sk]FORCE PRECEDE[OR_eq]PROVE SUCCEED[OR_eq])DOG[fa]DOGRA(l( AU E O
rr &62 &4 &20)s(nk &79)vo_s(AU E O vc(R RR)&4)&35)DO:LLAR_s:LPHIN:MINO_TILE(h_bf HORIZONTAL-00-00~06
HORIZONTAL-01-00~06 HORIZONTAL-02-00~06 HORIZONTAL-03-00~06 HORIZONTAL-04-00~06 HORIZONTAL-05-00~06
HORIZONTAL-06-00~06 v_bf VERTICAL-00-00~06 VERTICAL-01-00~06 VERTICAL-02-00~06 VERTICAL-03-00~06
VERTICAL-04-00~06 VERTICAL-05-00~06 VERTICAL-06-00~06)DO:NG_s:OR dz(b mi op p)de( cs FENCE lz_fa
OBELOS rg_ag so yr_mx &27)d(ac_ae cc(dg(&6)nu_tq)cl_eq cy_lp wx dw_tc hv_qu_m hy ie it f_yh_gr_c
lc(q OR)lw_lz LOW-:9_qu_m:REVERSED-9_qu_m NESTED(gr ls[ w_un])oi_hy p PRECEDES pm[qu_m]r_yh_ls_c
so_op sq(it ui)STACKED_cm t_nj_s sb SUCCEEDS ss SUSPENSION_m ui UP_tc v(ba[d(f_tt r_tt)f_tt]lz)wv_ol
&60)DOUBLE-ENDED_xo du(eq_TO_OR(&47)sl( eq_TO_OR(&47)gr_OR_eq_TO ls_OR_eq_TO))db(ca(C gm H N P PI Q
R Z)ia(ca_D z(D E I J))N-ARY_vl z(gm PI))zh(fj_s mb_s y)DO:UGHNUT:VE_OF_PEACE dw(ar zm_tl r_di_el
tc[w_k_e])dn(RED_n z_RED_n n_w(&59))DOWNWARD_FACING(ho[w_dz]nh_ho[w_dz])do(a[q_r_on_ei_bo le_OF_up_a
w(cz_le d_t h_t TIP(&88)&103)&69]tr(a[le_OF_up_tr_a TO_ba w(d_h_t ln_TIP(&88)&122)]zi_a
&98)uk_a_w_n_ad wh_a[wt_n_ar]zi_a &117 &153)DRA:CHMA_s:FTING_pn_i_a:GON[fa]
DR:ESS:IVE_SLOW_s:OMEDARY_CAMEL:OOLING_fa:OP_OF_BLOOD:OPLET:UM_w_DRUMSTICKS DU:CK:MPLING:PLOYAN (
AFFIX(ATTACHED(E_ho I_ho LEFT-TO-RIGHT_jc jc tl TANGENT[ho])hh(k dz lz ln_ga TIGHT_ac v[ jc]wa
&21)f_h_jc lw(a k dz lz ln_ga TIGHT_ac v[jc]wa &21)MID(h_jc v_jc) r_h_jc)d_m l(A AOU B D[S]DH E::E:U
F[N]G[R_S]H HL I IE J[M[S]N[S]S[w_dz]w(dz dt_iz_q_b)]K[M R_S] KK L LH ln(I U)M[N[S]S w_dz]N[M[S]S
w_dz]NASAL(A I O U)O::A:OH:U:W P[N]PERNIN(AM AN)R[S]RH ROMANIAN( I U)S[J[S]K[R]M N P[R]S
T[R]w_dz[e]]sh_I SLOAN(AN DH E:E:H:N J ON OW U)T[R_S S]TH U[N]UH UI V vc_M W[R]W:A:EI:H:I:O:OW X XW
YE)u_CHINOOK_fu_sz s_O_w_cs THICK_l_SELECTOR)DVD &9"

/-- The names that start with `E`. -/
def namesInE : String :=
  "E-MAIL_y EA:GLE:R[OF(MAIZE RICE)w_HEARING_AID]er[GLOBE(AMERICAS ASIA-AUSTRALIA EUROPE-AFRICA)
GROUND]es_SYRIAC_cs EDITORIAL_CORONIS EG:G:YPTIAN_HIEROGLYPH(A001~070 A0:05A:06A:06B:14A:17A:32A
A04:0A:2A:3A:5A AA001~032 AA007:A:B B001~009 B005A BEGIN_SEGMENT C001~024 C002:A:B:C C010A D001~067
D0:08A:27A:31A:34A:46A:48A D050:A:B:C:D:E:F:G:H:I D05:2A:4A D067:A:B:C:D:E:F:G:H E001~034
E0:08A:09A:16A:17A:20A:28A:34A E036~038 ed_SEGMENT F001~053 F0:01A:13A:21A:31A:37A:38A:45A:46A:47A
F051:A:B:C G001~054 G0:06A:07A:07B:11A:20A:26A:36A:37A:43A:45A H001~008 H006A h_jo I001~015
I0:05A:09A:10A:11A INSERT_AT(bt(ed xz)ug(ed xz))K001~008 L001~008 L00:2A:6A M001~044 M00:1A:1B:3A
M010A M012:A:B:C:D:E:F:G:H M0:15A:16A:17A:22A:24A:28A:31A:33A:33B:40A N001~042 N018:A:B N025A
N03:3A:4A:5A:7A NL001~020 NL0:05A:17A NU001~022 NU0:10A:11A:18A:22A O001~051 O00:1A:5A
O006:A:B:C:D:E:F O01:0A:0B:0C:9A O02:0A:4A:5A:9A O03:0A:3A:6A:6B:6C:6D O050:A:B or_j P001~011
P00:1A:3A Q001~007 R001~029 R00:2A:3A:3B R01:0A:6A S001~046 S0:02A:06A:14A:14B:17A:26A:26B:35A
T001~036 T00:3A:7A:8A:9A T0:11A:16A:32A:33A U001~042 U0:06A:06B:23A:29A:32A V001~040
V001:A:B:C:D:E:F:G:H:I V00:2A:7A:7B V01:1A:1B:1C:2A:2B V020:A:B:C:D:E:F:G:H:I:J:K:L V02:3A:8A:9A
V03:0A:1A:3A:7A V040A v_jo W001~025 W0:03A:09A:10A:14A:17A:18A:24A X001~008 X00:4A:4B:6A:8A Y001~008
Y001A Z001~016 Z00:2A:2B:2C:2D:3A:3B:4A:5A Z015:A:B:C:D:E:F:G:H:I Z016:A:B:C:D:E:F:G:H)eg(
PETALLED_ou_bl_fy &180)ei_nz EJECT_y ELBASAN_l(CHE EI G:E:HAMMA:HE:JE HE KE KHE LE LLE N:A:DE:JE QE
RRE Y ZHE &3 &107)ELECTRIC(a lg_BULB PLUG TORCH)ELE:CTRICAL_it:MENT_OF[oz(&76)w(ln_h_t tw_h_STROKES
un &8 &110)]EL:EPHANT:EVATOR:F:YMAIC(l(&43 &81)la_ZAYIN-YODH)EM(dh QUAD sx)EMOJI( COMPONENT(BALD
cy_HAIR RED_HAIR wh_HAIR)mo_FITZPATRICK(TYPE-1-2 TYPE-3~6))EMP:HASIS_y:TY(DOCUMENT NEST
nz[PA:D:GE]PAGE::S SET[w(f_a_b ob r_a_b z_k_b)])EN(dh QUAD sx)ed(OF(GUARDED_yv lz me
PRO:OF:TECTED_yv SELECTED_yv qq TRANSMISSION[bo])w_le_a_b)EN:Q:QUIRY:TER_y en[w(do_a_b vh)]EO:L:M:T
EPA eq(q_pz_TO TO(BY_DEFINITION OR(PRECEDES SUCCEEDS &47)))ea(cl s[b(p_s ti_op
&75)q_sl_pz[w_ti_b]w(BUMPY_b if_e tw_dt_b_q_tw_dt_e &26)]w_as)EQUIANGULAR_TO ev(TO w_fo_dt_b)
ERASE_TO_qi(&2)ERIS_o(on tw)ERROR-BARRED(bl(dm &27)wh (dm &27))ES:A:C:CAPE ESTIMATE:D_y:S
ET:B:HIOPIC(cl co(gt(q_vo_lt_m m)vo_lt_m)dg(&6)nu(ej ff xe hu ni jp xx tq[to]jz ty) pg_se PREFACE_cl
sm sy(B:BAA:BEE:OA:WA:WE CC:A:AA:E:EE CCH:A:AA:E:EE:HA:HAA:HE:HEE:HI:HO:HU:I:O:U CC:I:O:U
CH:E:EE:I:OA:WA COA CWA DDEE DDH:E:EE:I:O:U D:DOA:DWA:OA:WA DZ:AA:E:EE:I:O:U F:AA:WA:WE:YA GG:AA:EE
GGW:A:AA:E:EE:I gl(AA EE OA WA &3)GOA GURAGE(&204)GWA::A GY:A:AA:E:EE:I:O:U
HH:A:AA:E:EE:I:O:U:WE:WEE:WI HHY:A:AA:E:EE:I:O:U HOA JOA JWA KOA KWA::A KX:A:AA:E:EE:I:O:U
KXW:A:AA:E:EE:I KY:A:AA:E:EE:I:O:U LOA LWA M:OA:WA:WE:YA N:OA:WA:YOA:YWA pv PHARYNGEAL(AA EE &3)
PH:E:EE:I:O:OA:U:WA POA PW:A:E QA::A QE::E QH:A:AA:E:EE:I:O:U QHW:A:AA:E:EE:I QOA QWA::A
QY:A:AA:E:EE:I:O:U R:OA:WA:YA SEBATBEIT(BWA FWA MWA PWA)SH:AA:OA:WA SOA SS:AA:EE:I SWA
SZ:A:AA:E:EE:I:O:U:WA TH:OA:WA TOA TS:A:AA:E:EE:I:O:U:WA TTH:E:EE:I:O:U TWA TZ:A:AA:E:EE:I:O:OA:U
VWA WOA X:A:AA:E:EE:OA:U XW:A:AA:E:EE:I XY:A:AA:E:EE:I:O:U YOA Z:AA:HAA:HWA:OA:WA:ZAA:ZEE &18 &124
&176 &174 &185 &204)TONAL_m(CHIRET DERET::-HIDET DIFAT HIDET KENAT KURT RIKRIK sh_RIKRIK YIZET)
WORDSPACE &11 &49 &50)ETX EULER_CONSTANT EURO:_s:-CURRENCY_s:PEAN(CASTLE POST_OFFICE)EVERGREEN_uj
EXCESS ex(m &49)EXPRESSIONLESS_fa ee_aa_dg(ze &6)EXTR:ATERRESTRIAL_ALIEN:EMELY_he(np_gg_as
&106)EYE::GLASSES ey"

/-- The names that start with `F`. -/
def namesInF : String :=
  "fa(hl_bf_TEARS MASSAGE PALM SAVOURING_DELICIOUS_FOOD SCREAMING_IN_FEAR THROWING_A_KISS w(
CO:LD_SWEAT:WBOY_HAT di_mu fe_wj_cx_zr HEAD-BANDAGE LOOK_OF_TRIUMPH MEDICAL_MASK MONOCLE
NO_GOOD_GESTURE OK_GESTURE on_EYEBROW_ra oe(ey_q_hn_ov_mu mu[q_COLD_SWEAT VOMITING])
P:ARTY_hx_q_PARTY_HAT:EEKING_EYE:LEADING_ey ROLLING_ey STUCK-OUT_uf[q(yb_ey
WINKING_EYE)]TEARS_OF_JOY THERMOMETER UNEVEN_ey_q_wv_mu)wu_mu)FA:CSIMILE_s:CTORY:IRY:LAFEL:LLEN_lk
fk_di(cr(nr_es_a rs_di)IN_wh_k_IN_bl_sq)FA:MILY:RSI_y:THER_CHRISTMAS:X(ICON zs)FEA:RFUL_fa:THER fj_s
FE:MININE_ORDINAL_ic:NCER:RRIS_WHEEL:RRY FF FI:ELD_HOCKEY_STICK_q_bz:GURE(dh sx)FILE(CABINET fd
se)FILM(FRAMES PROJECTOR)FI:NITE_PART_ie:RE[ENGINE EXTINGUISHER]
FIR:ECRACKER:EWORK_SPARKLER:EWORKS:ST(PLACE_mg qa_mz[y w_fa]STRONG_il)zm[CAKE_w_SWIRL_DESIGN]
FIS:HEYE:HING_POLE_q_zm:TED_hn_s fv_dz(m u)fg_IN_HOLE FLA:MINGO:T_xv:TBREAD:TNESS
FLE:UR-DE-LIS:XED_BICEPS FLO:PPY_DISK:RAL_ht:WER[PLAYING_CARDS u_m]FL:USHED_fa:Y:YING(DISC en
SAUCER)FOG::GY fd FONDUE FOOT::PRINTS fx_ALL FOR:CES:K_q_KNIFE[w_PLATE]FORK:ED_pp:ING o_zk
FO:RTUNE_COOKIE:UNTAIN fo(bp_as CLUB-SPOKED_as cz_aw_CIRCLING_ai dz(m u)lk_CLOVER pi_bl_sa ts_as)
FOUR:-PER-EM_sx:TH_ROOT FOX_fa fr(NUMERATOR_on sk)FRAME_w(AN_X zu TILES)FRE:EZING_fa:NCH(
FR:ANC_s:IES)FRIED_SHRIMP FRO:G_fa:NT-FACING_BABY_CHICK:NT-TILTED_go_wh_i_a:WN:WNING_fa_w_oe_mu
FS::I FUEL_PUMP fu(bo mz(y w_fa)OUTER_JOIN sz)FULLWIDTH(ap BROKEN_ba CENT_s f(wh_pa &112)lw_lz ma
nj_s POUND_s qu_m r( wh_pa &112)so WON_s YEN_s &7 &116 &108 &111)FU:NCTION_APPLICATION:NERAL_URN:SE
FVS1~4"

/-- The names that start with `G`. -/
def namesInG : String :=
  "GA:ME_DIE:RLIC GEAR[w_HANDLES wu_HUB]GE:M_STONE:MINI:NIE GEOMETRIC:_PROPORTION:ALLY(&64)GEORGIAN(
ca_l(&102)l(yf ELIFI FI hw_s LABIAL_s td_GAN &102)MTAVRULI_ca_l(yf ELIFI FI hw_s LABIAL_s td_GAN
&102)pg_se z_l(&102))G:ERMAN_PENNY_s:ETA_m:HOST:IMEL_y GIR:AFFE_fa:L:LS_y GLAGOLITIC(ca_l( &115
&181)z_l(&115 &181))GL:ASS_OF_MILK:EICH_STARK:OBE_w_MERIDIANS:OVES:OWING_sa
GO:AL_NET:AT:GGLES:LFER:RILLA:THIC_l(AHSA AIHVUS BAIRKAN DAGS EIS FAIHU GIBA HAGL HWAIR IGGWS IUJA
JER KUSMA LAGUS MANNA NAUTHS nx_hu ni OTHAL PAIRTHRA QAIRTHRA RAIDA SAUIL TEIWS THIUTH URUS WINJA)
GRA:DUATION_CAP:NTHA(AU_lt_m l(AU EE ll OO VEDIC(an d_an)&62 &4 &20 &86)OM s(co_an_b PLUTA &79 &53)
vo_s(AU EE OO &4 &86))GRAPES ga_ae gr(b(du_eq_b_ls ls_b_du_eq i_a SIMILAR(b_ls OR_eq)
sl_eq_b_ls_b_sl_eq)bs_ls eq_TO_OR_ls OR(qj ls sl_eq_TO[w_dz(b[f]iz)]&64)oa_ls &154)ge(
ACROPHONIC(ATTIC(ff[ew tm to[ew]]fv[hu[ew tm]ew tm to[tm]] on(DRACHMA ha hu(ew tm)qa to(ew
tm))tq(MNAS ew tm to_ew)) CARYSTIAN_fv_hu CYRENAIC_tw_DRACHMAS DELPHIC_fv_MNAS EPIDAUREAN(fv_hu
tw[DRACHMAS]) HER:AEUM_on_PLETHRON:MIONIAN (ff on tq)MESSENIAN_tq NAXIAN_fv_hu STRATIAN_ff_MNAS
THESPIAN(ff fv( &12)on[&12]tq jz th_hu tw)TROEZENIAN(ff[al_o]fv[hu]tq[al_o]))ANO_TELEIA
AR:OURA_s:TABE_s by_y ca(KAI_y l(ax[w(ma vr &208)]ah_SAMPI ETA[w(&208)]iq[w(dy ma vr
&119)]om[w(&208)]zw[w_df]us[w( df[q(pe &32)]dy ma kq vr &32)]YOT &145)re(&131)tk_y &131)dy(q(pe
&32)kq)DRACHMA_s fv_OBOLS_s fo_OBOLS_s GRAMMA_s IN:DICTION_s:STRUMENTAL_nb(SYMBOL-1 SYMBOL-11~14
SYMBOL-17~19 SYMBOL-2 SYMBOL-23~27 SYMBOL-:29:30:32 SYMBOL-36~40 SYMBOL-4::2:3:5 SYMBOL-47~54
SYMBOL-:5:7:8) K:AI_y:APPA_y:ORONIS:YATHOS_BASE_s l(ah_kp oy kp SAMPI z_ca(gm LAMDA om PI PSI
zw)STIGMA YOT)LITRA_s lo_nm_s qy(ep_y gs_y)METRETES_s ms_LEIMMA nm_s OBOL_s
on(ha_s[al_o]qa_s)OUNKIA_s pe PHI_y PI_y pr re_qy_ep_y zw(y w_t_y)SINUSOID_s z(de_qy_gs_y l(ax[w (ma
vr &90 &130)] ah(kp SAMPI)oy ETA[w(&90 &130)]fi_gs iq[&199]kp om[w(&90 &130)]zw[w(df px)]SAMPI
STIGMA us[&199]&145)re(&131))vk_z_l(by CHI gm PHI zw)y_TAU_zw TALENT_s tk_y th(OBOLS_s
qr_s)TRYBLION_BASE_s tw(OBOLS_s jf_s)us_w(ac_q_ho_y da_q_ho_y ho_y )VOCAL_nb(SYMBOL-1~9 SYMBOL-10~24
SYMBOL-50~54)XESTES_s YEAR_s yp ze_s &119 &49)GREEN(APPLE BOOK ht SALAD)
GRI:MACING_fa:NNING(CAT_fa_w_sg_ey fa[w(on_lr_q_on_z_EYE sg_ey sa_ey)])GROUP(m se)GROWING_ht GS
GU:ARANI_s:ARDSMAN:IDE_DOG:ITAR:JARATI(l(ll ZHA &62 &87 &20)OM rp_s s(k_nk_b MADDAH xt SUKUN
THREE-DOT_nk_b TWO-CIRCLE_nk_b &79 &53)vo(gx(E O)s(gx(E O)&87))&7 &35)GUNJALA_GONDI(l(AU yi CA
DD:A:HA xc EE GA gh JA jh ll ng OO RA TT:A:HA VA YA &4 &13 &61)OM s(&78)vi vo_s(AU EE OO &4)&7)
GURMUKHI(ADDAK EK_ONKAR IRI l(AU EE FA GHHA jh KHHA ll ng OO rr nf VA YA ZA &62 &4)s(ADAK_BINDI
BINDI nk UDAAT vi vs YAKASH)TIPPI URA vo_s(AU EE OO &4)&7 &35)"

end PacketSmith.Text.NameTree

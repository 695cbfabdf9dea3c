/-!
# Names of characters that start with `S`

The names as a tree of words, in the form that `Text.CharacterName` describes.
-/

namespace PacketSmith.Text.NameTree

/-- The names that start with `S`. -/
def namesInS : String :=
  "S_IN_n SAFETY(PIN VEST)SA:GITTARIUS:ILBOAT:KE_vz_q_CUP:LT_SHAKER:LTIRE:LUTING_fa:MARITAN(ab_m
l(ALAF BAA BIT DALAT FI GAMAN I:N:T:Y KAAF LABAT MIM nn QUF RISH xu SINGAAT T:AAF:IT:SAADIY YUT
ZEN)m(dj EPENTHETIC_YUT IN::-ALAF NEQUDAA OCCLUSION)mo_l(EPENTHETIC_YUT I sh_A)u(
A:FSAAQ:NGED:NNAAU:RKAANU:TMAAU BAU MELODIC_QITSA NEQUDAA QITSA SHIYYAALAA SOF_MASHFAAT TURU ZAEF
ZIQAA)vo_s(AA ln(A AA E I U)OVERLONG(A AA)sh_A SUKUN &3))SANDWICH sn(he(d(&125)lw_d_cm_qu_m_g)io_g)
SA:RI:TELLITE[ANTENNA]SA:TURN:URASHTRA(cn_s_HAARU l(EE ll OO &62 &87 &20)s(&79 &40)vo_s(EE OO &87)&7
&44)SA:UROPOD:XOPHONE SC:ALES:ARF:HOOL[SATCHEL]SC:I:OOTER SCORPI:ON:US SCRE:EN:WDRIVER sr(ca(B E F H
I L M P R)la_ET_g z(E G L O))SCR:OLL:UPLE SE:AL:AT:COND_PLACE_mg sc_s
SE:CTOR:DNA:E-NO-EVIL_xm:EDLING SEGMENT::ED_dg(ze &6)SELFIE sm SEMI:DIRECT_pd_w_bt_cx:SEXTILE
SE:PARATED_y:RIOUS_fa_w_SYMBOLS_wj_mu:RVICE_m:SAME_dz:SQUIQUADRATE:T(mi TRANSMIT_STATE)
S:EWING_NEEDLE:EXTILE:GC:HADOWED_wh(k lx_cs sa)SHA:LLOW_PAN_OF_FOOD:MROCK:RADA(CONTINUATION_s EKAM
EXTRA_sh_vo_m hq l(ll &62 &87 &20)OM xq_m sc(MARK-:1:2)se s(in_cb ji jq ua &79 &53)SUTRA_m vo(mo_m
s(ph_E &87))&7 &35 &44)SHA:RK:VED_ICE:VIAN_l(A:DO:GE:H:IR:RE:RRAY az AWE BIB CHURCH DEAD
E:AR:AT:GG:RR FEE GAG HA-HA HUNG I:AN:CE:F JUDGE KICK LOLL mq MIME nn O:AK:IL:N:OZE:R ot PEEP ROAR
SO SURE TH:EY:IGH TOT UP VOW WO:E:OL YE:A:W ZOO)SH:EEP:IELD:IFT(IN ot)SHI:NTO_SHRINE:P
SHO:CKED_fa_w_EXPLODING_hd:OTING_sa:PPING(BAGS TROLLEY)sh(BACKSLANTED_sj_a bn_a_po_do_THEN_nr_es
dw_tc[w_ob]f_tc i_a_b_le_a sl_nr_a UP_tc[b_sh_dw_tc w_un])SHORT:CAKE:HAND_FORMAT(CONTINUING_OVERLAP
dw_STEP l_OVERLAP UP_STEP)SH:ORTS:OULDERED_oe_bj:OWER:RIMP:RUG:UFFLE_pd:Y SI::DDHAM(ed_OF_qq_m l(
al_U THREE-CIRCLE_al_I TWO-CIRCLE_al(I II)&62 &87 &20)rq(MARK-1~3)sc_m(d_ri[w_zv]w(ow_q(
fo_ENCLOSURES zv tw_ENCLOSURES)d_ct qp_ct zv_q_de(ct d_ct tp_ct)SEPTUPLE_ct TRIDENT_q(de_ct
uh_ORNAMENTS)tp_ct ))se(ba dz)s(nk jq &79 &40)vo_s(al(U UU)AU E O vc(R RR)&4)&44)jw(bl(
&205)wh(&205))s_OF_qi_HORNS SIGNWRITING(AIR(BLOW:_z_ROTATIONS:ING_ot SUCK:_z_ROTATIONS:ING_IN)
BREATH(EXHALE INHALE)BRUSH(be &48)CHEEKS(nt PUFFED SUCKED)cl DREAMY_EYEBROWS(dw_nt nt(dw UP)UP_nt)
DYNAMIC(ar(lr z)EVERY_OTHER_TIME FAST GRADUAL RELAXED SIMULTANEOUS[at]SLOW TENSE)E:ARS:XCITEMENT:YE(
BLINK(&48)WINK)EYEBROWS_st(dw nt UP)EYEGAZE-FLOORPLANE(cv st[at d])EYEGAZE-WALLPLANE(CIRCLING cv st[
at d])EYELASHES(dw FLUTTERING UP)ey(cx ha(cx oe)oe SQUEEZED WIDE:_oe:NING_mv)fa_DIRECTION_pq_NOSE(
fw_uy UP_OR_dw[uy])fz(MODIFIER-2~6)fe FLICK(lr(&48)jv z(&48)) FLOORPLANE_xw_HIP_MOVE FOREHEAD(ox nt
wr)GRASP(be &48)HA:IR:ND-ANGLE[id[j(li ri )ri_li[ ot]tu[IN ot]]li(id[tu_id_tu[ot]]UP)j_ri_li[IN
ot]ri(dw_j_tu_id_cs li)]HAND-CIRCLE[id[bn HINGE j[ cs_li gj li ri tu]ri_li]li(id
UP)j(ri_li[bn]UP)ri_li]HAND-CLAW[fo_fn_cj id_tu_nw_tu_iz
j_ri_li_cj[sd]&95]HAND-CUP[fv_fn_jx[oe]id[ri_li tu[oe]]j_ri_li oe[&95]&95 ]HAND-CURLICUE[
id_ri_li_ON j_ri_li_ON oe]HAND-FIST[fo_fn_cj_bn HEEL id[bn[ov_j]wp hg[lw j_UP[tu_sd]]j[bn[tu_st]
cj[wp[tu_fw]hg[tu_sd]id_bn j_bn tu(fw sd[bn cj])]cs_li gj[tu_sd ]hg[jx_tu_sd]li ra_kd ri[bn
cj]st_tu_bn tu[ANGLED[ot]bn cc cj_hg wp hg hk]UP_jx_tu_fw]ra_kc ri_li tu( ANGLED(IN_j_UP ot_j_UP)k
cc_j_UP CU:PPED_j_UP:RLICUE:RVE_tu(iz ud)fw_id(bn st)ho hk_j(hg UP)sd[ BOTH_bn id(bn HINGE)tu(bn cj
di)])UP_j_hg[tu(cj sd)]]li(bn dw[OTHERS_cc RIPPLE(cv st)]id[tu]ra_kc tu TOUCHES_tu UP)j(bn_ov_id dw
li ra_kc ri_li tu(ANGLED(id_UP ot_id(gj UP))cc_id(hg UP) wp_id_UP hk_id_UP li)UP[tu_sd])ri(dw id li
j[cj ra_kd]ra_kc tu UP)tu[be(id_j[st]j_ri ri_li)fw HEEL ov(fo_ra_kd tw_fn)sd(bn cj di)ud(fo_fn id_bn
li_UP th_fn tw_fn)]]HAND-FLAT[ be_PALM_FACINGS fv_fn_jx[bn fo_bn hg[NO_tu tu_sd]tu_fw]fo_fn[bn
cj[SPLIT]hg]HEEL[fv_fn_jx[bn fo_bn]tu_sd]SPLIT(ce[tu_sd[bn]]id_tu_sd li)tu(bn fw
sd)]HAND-HINGE[fv_fn_jx_oe fo_fn_cj id[hg j( li ri[cj])ri_li tu[lr oe sd
z]]li[id[tu]tu]j[ri_li]NO_tu oe[&95]ri[dw_id_tu_ho_j]z tu(be_j_ri sd[
TOUCHING_id])]HAND-HOOK[CURLICUE id_ri_li(IN ot ud)j(ri_li_cj[IN ot]tu)ri_tu]HAND-OVAL[ fv_fn_jx id
li_UP ri_li &95]hd[mv_k mf(nw st)mw(nw st TILT)RIM]LIMB(COMBINATION LENGTH-1~7)LIP(lo_ov_ue
ue_ov_lo)zr_PRESSED_qs xi(DEPTH hd_NECK HEIGHT LIMBS_DIGITS TORSO
WIDTH)LOCATION-:FLOORPLANE_sx:WALLPLANE_sx mu(cx(ox fw nt)jm FROWN[oe wr]KISS[fw wr] oe(k fw OVAL[wr
YAWN]rc[wr YAWN]wr)SMILE[oe wr]TENSE[fw SUCKED]WRINKLES(&24))MOVEMENT-DIAGONAL(AWAY( lq
&19)be(AWAY(lq &19)TOWARDS(lq &19))TOWARDS(lq &19))mf(ARM_k_hi_WALL(lr(&24)me(&24)z(&24))BEND jr
cz(&19)nw(COMBINED hi(cg(lr z)fq(lr z))lq &19)fe(ow_hi_WALL(&24)ox)HUMP(hi(cg(lr( d tp)z(d
tp))fq(lr_d z_d tp(lr_tp z_tp)))z)lp(hi(cg(lr(&24)z(&24))fq(lr(&24)z(&24)))z)zz_pz tp( at(mv
wi_fp)st_mv wi_fp)wa(hi(cg(lr z)fq(lr z))lr z SNAKE)wi_k_hi_WALL(&24)&164)MOVEMENT-HINGE( dw_jv
sd_TO_sd_jt UP(dw(at(lr z)lr z)jv))mw(ARM_k(me(&24)z(&24))BEND(&19) jr(&19)cz(ROTATION
&19)nw(HALF-CIRCLE(lq &19)qa(lq &19)TH:EN_st:REE-QUARTER_k(me z)&84)cv_cs( me
z)fe(ow(&24)ox)HUMP(&19 &84)lp(lr me z[d]&84 )zz tp(at[wi_fp]st_mv wi_fp)wa(
nw(d(&19)tp(&19))di_PATH(&19)&84)wi_k_FRONT(&24)&164 )NECK NOSE(ox nt WIGGLES WRINKLES)pa
ROTATION(MODIFIER-10~16 MODIFIER-2~9)rf(at[hi(cg fq)]d[hi(cg fq)]si[hi(cg fq)])rw(al at_hi(CHEST
FRONT_WALL)d[&84]si[&84])RUB(be &48)sm xw(HIP (POSITIONS SPINE)uy_fm_WAIST)SQUEEZE( FLICK_at
lr(&48)jv z(&48))STRIKE(be &48)SURFACE(be SYMBOLS)TEETH[BITE_zr mv ON(zr[mv] uf[mv])]TENSE_CHEEKS(hh
lw j)uf(ce(iz_mu STICKING_ot)iz_mu_RELAXED LICKING_zr MOVES_AGAINST_CHEEK STICKING_ot_FAR TIP(be_zr
TOUCHING_iz_mu)) TORSO-:FLOORPLANE_TWISTING:WALLPLANE(cv_BEND st_STRETCH)TOUCH(be
&48)TRAVEL-FLOORPLANE(&197) TRAVEL-WALLPLANE(ARM_SPIRAL(tp &24)&197)ue_BODY_uy_fm_HIP_JOINTS
WALLPLANE_xw_HIP_MOVE &11)SI:LHOUETTE_OF_JAPAN:MILAR(b(gr_b_ea_s ls_b_ea_s)mi_SIMILAR
OR(&47))SINE_wa si(ch_ij GRAPHIC_ch_ij hv_qu_m lf_ag_qu_m LOW-9_qu_m rg_ag_qu_m SHIFT
(&5))SINGLE-SHIFT-:2:3
SINHALA(ah(dg(&6)nu(on(&12)&92))l(A:AYANNA:EEYANNA:EYANNA:IYANNA:LPAPRAANA(&201)
A:MBA_BAYANNA:UYANNA:YANNA DANTAJA(LAYANNA NAYANNA SAYANNA)EEYANNA EYANNA FAYANNA HAYANNA IIYANNA
ILU:UYANNA:YANNA IRU:UYANNA:YANNA IYANNA KANTAJA_NAASIKYAYA MAHAAPRAANA(&201)MAYANNA MUURDHAJA(
LAYANNA NAYANNA SAYANNA)OOYANNA OYANNA RAYANNA SANYAKA(DAYANNA DDAYANNA GAYANNA JAYANNA)TAALUJA(
NAASIKYAYA SA:NYOOGA_NAAKSIKYAYA:YANNA )UUYANNA UYANNA VAYANNA YAYANNA)LITH_dg(ze &6)u_KUNDDALIYA s(
AL-LAKUNA ANUSVARAYA VISARGAYA &40 )vo_s(qv DIGA(AEDA-PILLA gp gy IS-PILLA KOMBUVA PAA-PILLA)gp gy
KETTI(AEDA-PILLA IS-PILLA PAA-PILLA)KOMBU:_DEKA:VA[HAA(qv DIGA_qv gy)]))np(PETALLED_bl_q_wh_fy
pi(sa_w_j_dz &99))SIX:-PER-EM_sx:TEEN_pi_as SK:ATEBOARD:I_q_SKI_BOOT:IER:ULL[q_CROSSBONES]SKUNK
sl(eq_TO_OR(gr[w_dz_iz]ls[w_dz_iz])nr_a_w(hk_hd h_tl))SL:AVONIC_as:ED:EEPING(ACCOMMODATION fa
y)SL:EEPY_fa:EUTH_OR_SPY:ICE_OF_PIZZA:IGHTLY( xf_fa sg_fa)SLOP:E:ING_lr(q OR)SLOT:_zs:H z(aq BLUE_dm
CONTAINS(AS_xk w(&110)) ELEMENT_OF[w(&110)]EM_dh ig_cm f(&73)ORANGE_dm r(&73)ROMAN_nm(eg ez ff
fv[hu]fo nx on[&12]sv np tq qg &5)tw_dt_ov_on_dz_u VEE_w_un &116)SMALLER_THAN[OR_eq_TO]SM:ASH_pd:ILE
sg(CAT_fa_w( HEART-SHAPED_ey oe_mu)fa_w(H:ALO:EART-SHAPED_ey:ORNS oe_mu[q(COLD_SWEAT sg_ey yb_ey)]
sg_ey[q(hn_wj_mu th_hb)]SUNGLASSES TEAR))SM:IRKING_fa:OKING_y SN:AIL:AKE:EEZING_fa
SNOW:_CAPPED_mt:BOARDER:FLAKE:MAN[wu_SNOW]SO::CCER_bz:CKS:FT(hy ICE_CREAM jk_FLOPPY_DISK)
SOFT:BALL:WARE-FUNCTION_y SOGDIAN(co(nw(&1)ho(&1)ln_ho_e rh_e t_e tw_dt(&1)&38)ip_qn l(vw FETH LESH
xj RESH-AYIN ww zy &43)nu(&63)u(k_w_dz ha_k_w_dz tw(ow_w_dt v_BARS[w_dt])))
SO:H:LID_QUILT_sq_g[IN_bl_sq]so[w_ob]SO:M_s:ON_w_i_a_b:RA_SOMPENG(l(AH BAH CAH DAH EEH EH GAH hz IH
JAH KAH LAH MA:E:H N:AH:GAH:YAH OH PAH RAH SAH TAH UH VAH YAH)&7)SO:S:UND_RECORDING_COPYRIGHT sj(es(
a[q_sj_we_a cr_nr_es_a TO_cz w_ho]&134)we(a[q_nr_we_a w_ho]&134))SOYOMBO(vp_l(LA RA SA nf)fi_cn_s(-A
B D G K L M N NG R S SH)gt_m hd_m_w_mz_q_SUN[q(FLAME tp_FLAME)]l(-A KSSA &62 &20 &56) m(d_gk PLUTA
gk kw)s(ji ua &78)SUBJOINER TERMINAL(MARK-:1:2)vo(lt_m s(AI AU E I O OE U UE vc( L R))))SP::A sx
SPAGHETTI SPARKL:E:ES:ING_ht SPEAK:-NO-EVIL_xm:ER[w(ok_t on_gv_wa
th_gv_WAVES)]SPE:AKING_hd_IN_qz:ECH_BALLOON:EDBOAT:SMILO_s SPHERICAL_ag[oz(f UP)]SPIDER[
WEB]SPIRAL(CALENDAR_PAD nz_PAD jk)SPLASHING_SWEAT_y SPO:NGE:OL_OF_THREAD:ON:RTS_mg:UTING_WHALE
sq(A:_ov_M:ARU:M:NPEA:PAATO:RUHUA:U BAARERU ba B:EETA:IRU:ORUTO:Q:USSYERU C:_ov_KG:AL:AP:C:D:M[wk
su]CO::RPORATION CUP D:A:AASU:B:ESI:J:L:M[wk su]DORU EEKAA ERA_NAME(HEISEI MEIZI REIWA SYOUWA
TAISYOU)E:RG:SUKUUDO:V FM FOOT fo_jm GA:L:NMA:RON G:B:HZ:IGA:INII:IRUDAA:PA GURAMU::TON GY
H:A:AITU:EKUTAARU:ERUTU:G:IRAGANA_HOKA:ON:OON:OORU:P:PA:UARADDO:UIITO:URAN:Z ik_OF[OR(eq_TO
nj_eq_TO)]IN::INGU:TI IU K_OHM KA::IRI:RATTO:RORII K:B:CAL:EESU:G:HZ KIRO::GURAMU:MEETORU:WATTO
K:K:L:M[ca wk su]K:OOPO:ORUNA:PA:T:UROONE:URUZEIRO:V:W:YURII f_oe_bj_op L:M:N:OG lj LX M(wk OHM
ov_S[su]su)MA::HHA:IKURO:IRU:NSYON:RUKU MB[z]MEETORU MEGA::TON M:G:HZ:IKURON:IL:IRI:IRIBAARU:L:M[wk
su]M:OL:PA:S:U(A F G L M S V W)MV[MEGA]MW[MEGA] N:A:ANO:F:M:OTTO:S:V:W O:NSU:OMU:RIGINAL_OF[OR(eq_TO
nj_eq_TO)]OV PA[AMPS]PAA:SENTO:TU PC PE:EZI:NIHI:NSU:SO P:F:H:IASUTORU:IKO:IKURU:M:OINTO:ONDO pq_ic
P:PM:R:S:V:W RAD[ov_S[su]] RE:MU:NTOGEN r_oe_bj_op R:IRA:ITTORU:OOT:UPII:UUBURU SA:IKURU:NTIIMU
SENT:I:O S:IRINGU:R:V T:ARGET:HZ:ON UON V_ov_M WATTO WB w(bt_ha_bl CONTOURED_OUTLINE
di_CROSSHATCH_fz h_fz lo(f_di_ha_bl r_di_ha_bl)ORTHOGONAL_CROSSHATCH_fz ug_ha_bl ue(f(di_ha_bl
TO_lo_r_fz)r(di_ha_bl TO_lo_f_fz))v_fz &59)YAA:DO:RU YUAN)su(as
CJK_UNIFIED(IDEOGRAPH-4E:00:09:2D:8C:A4
IDEOGRAPH-5:18D:21D:24D:272:3CC:3F3:408:439:5B6:8F0:91A:929:B57:DE6:F8C
IDEOGRAPH-6:24B:253:295:307:355:599:5B0:620:708:709:E80:F14
IDEOGRAPH-:7121:751F:7533:7981:7A7A:7D42:89E3:8CA9:8D70:904A:914D)CL COOL dz_op eg_K
f:k_di_sk:v_pn_on:o(dz_u K)FREE H:C:DR:I-RES:V ID kk(DE KOKO SA)KEY lx(ca_l(&67)z_l_D)lc(q OR)
LOSSLESS mi MV NEW NG OK on_hu_ty_P p PPV rs_di_sk S:ALTIRE:D:ECOND_xr sv_pn_on SHV xx_P z_k SOS sq
SS th_D x TWENTY-TWO_pn_tw tw_K UHD UP_w_ex_m VOD VS WC)SQU:AT_bl_i_a:ID SS:2:3:A ST::ADIUM
sf_OF(AESCULAPIUS HERMES)STA:MPED_en:NDING_ps sa(q_js ea OF_DAVID op w(&59))xz_OF( GUARDED_yv
HEADING PROTECTED_yv SELECTED_yv STRING qq)STAT:ION:UE_OF_LIBERTY
STE:AM_LOCOMOTIVE:AMING_BOWL:NOGRAPHIC_fu_sz:THOSCOPE STICK_FIGURE[LEANING(&2)w(ARMS_ra DRESS)]
STO:CK_CHART:PWATCH st_RULER STR:AIGHTNESS:AWBERRY:ESS_ou_wh_sa:ICTLY_ev_TO:ING_TERMINATOR
ST:S:UDIO_MICROPHONE:UFFED_FLATBREAD:UPA:X SUB::SCRIPT(ea_s mi p_s ze &6 &100)sb(b(i_a sb ss)&158)
SU:BSTITUTE:CCEEDS[&157]vl(bt ug w_ie)SUN[BEHIND_wc w_fa]SUNDANESE(av cn_s(
PA:MINGKAL:NYAKRA:NYIKU:SANGAN(MA WA))l(AE yi CA EU FA fi(K M)JA kz LA LEU ng ny QA REU SYA VA XA ZA
&18 &3)u_BINDU(BA_ut CAKRA DA_ut KA_ut LEU_ut PANGLONG PURNAMA SURYA)s( PAMAAEH
PAN:GLAYAR:GWISAD:YECEK vi)vo_s(PAMEPET PAN:AELAENG:EULEUNG:GHULU:OLONG:YUKU)&7)
SUN:FLOWER:RISE[ov_MOUNTAINS]SU:NSET_ov_BUILDINGS:PERHERO sp(ea_s lx_z_l(I N)mi p_s ze &6 &100)ss(b(
le_a sb ss)bs(q_jn_BY_dh_w_sb sb)PRECEDING_so &158)SU:PERVILLAIN:RFACE_ie:RFER:SHI:SPENSION_RAILWAY
SW:AN:ASH_am_g:IMMER:UNG_dh SYLOTI_NAGRI(l(BHO BO CHO CO D:DHO:DO:HO:O GHO GO HO JHO JO KHO KO LO MO
NO PHO PO RO RRO SO T:HO:O:THO:TO &3)POETRY(MARK-1~4)s(al_HASANTA an DVISVARA HASANTA)vo_s(A E I OO
U))y_fx(ak BACKSPACE BELL CA:NCEL:RRIAGE_RETURN DATA_LINK_ESCAPE DELETE[o_tw]DEVICE_zb(fo on
&5)ed_OF(me qq TRANSMISSION[bo])ENQUIRY ESCAPE FILE_se o_zk GROUP_se h_tb lz_zk MARKS_CHAPTER nv_ak
NEWLINE NULL RECORD_se SAMARITAN_SOURCE SHIFT(IN ot)sx xz_OF(HEADING qq)SUBSTITUTE[o_tw]
SYNCHRONOUS_IDLE TYPE_A_ELECTRONICS UNIT_se v_tb)SY:MMETRY:N:NAGOGUE:NCHRONOUS_IDLE:RIAC(ab_m
BARREKH cl_SKEWED(&2)CONTRACTION de_ZLAMA(ANGULAR &41)ed_OF_pg ESASA(&1)FEMININE_dz HARKLEAN(
ASTERISCUS METOBELUS OBELUS)HBASA(&1)HBASA-ESASA_de h_cl l(ALAPH vx DALATH dl_DALATH_RISH E
fi_SEMKATH GAMAL[GARSHUNI]HE::TH kg LAMADH MALAYALAM(yi JA ll xh ng NN:A:NA ny RA uw TTA)MIM nn
PE::RSIAN(BHETH DHALATH GHAMAL)QAPH re_PE RISH S:ADHE:EMKATH:HIN:OGDIAN(FE KHAPH ZHAIN)sp_ALAPH TAW
TETH[GARSHUNI]ww YUDH[HE]ZAIN)MUSIC oi_lz(&1)PTHAHA(de &1)QUSHSHAYA RBASA(&1)RUKKAKHA RWAHA
SUBLINEAR(cl[SKEWED(&2)]fu_sz)SUPRALINEAR(cl[SKEWED_f]fu_sz)th_dt(&1)tw_v_dt(&1)ZQAPHA(de &1))
SYRINGE"

end PacketSmith.Text.NameTree

/-!
# Names of characters that start with `A` to `B`

The names as a tree of words, in the form that `Text.CharacterName` describes.
-/

namespace PacketSmith.Text.NameTree

/-- The names that start with `A`. -/
def namesInA : String :=
  "ABACUS AC:_zc:CORDION:COUNT_OF:K ak ACTIVATE(aj_o_SHAPING SYMMETRIC_SWAPPING)ac(ae ag)
AD:DRESSED_TO_qi_SUBJECT:HESIVE_BANDAGE:I_SHAKTI:LAM(ALIF_lh ca_l(&173)cn_mo GEMINATE_cn_mo gt_m hm
ii(&60)na_m nk z_l(&173)vo_lh &7)AD:METOS:MISSION_TICKETS:ULT AEGEAN(jr_m DRY_mq_FIRST_gc
LIQUID_mq_FIRST_gc mq(xs_gc tv_gc)nu(&170)WEIGHT(BASE_UNIT FIRST_gc FOURTH_gc xs_gc tv_gc)wo_se(dz
lz))A:ERIAL_TRAMWAY:FGHANI_s:HOM(cn_s_md(LA LIGATING_RA RA)l(al(BA GA TA)jh ll ng
&62)nu(&42)s(KILLER RULAI sc z_sc)y_VI vo_s(A::M:W E O &4)&7) aq[ARRIVING DEPARTURE]AKTIESELSKAB
AL:ARM_CLOCK:CHEMICAL_y_fx(AIR ALEMBIC ALKALI::-2 ALUM AMALGAM ay_ORE AQUA(REGIA::-2
VITAE::-2)A:QUAFORTIS:RSENIC:SHES:URIPIGMENT BATH_OF(MARY VAPOURS)BISMUTH_ORE bl_SULFUR BORAX::-2:-3
BRICK CA:DUCEUS:LX:PUT_MORTUUM CINNABAR wf(ANTIMONIATE ORE)CROCUS_OF( COPPER::-2 IRON)CRUCIBLE
CRUCIBLE-2~5 DAY-NIGHT DISSOLVE::-2 DISTILL er FIRE GOLD GUM ha(DRAM OUNCE) hj_DUNG HOUR
IRON(ORE::-2)IRON-COPPER_ORE LEAD_ORE LODESTONE MARCASITE MERCURY(SUBLIMATE::-2:-3) MONTH NI:GHT:TRE
OIL PHILOSOPHERS_SULFUR POT_ASHES POWDER::ED_BRICK PRECIPITATE PU:RIFY:TREFACTION
QUI:CK_LIME:NTESSENCE REALGAR::-2 REGULUS[OF(ay ANTIMONY-2 IRON)]REGULUS-2~4 RETORT ROCK(SALT::-2)
SAL:-AMMONIAC:T[OF(ay wf_ANTIMONIATE)]
S:CEPTER_OF_JOVE:ILVER:OAP:PIRIT:TARRED_TRIDENT:TRATUM_SUPER(STRATUM::-2)SUBLIMATE_OF(ay wf
SALT_OF(ay wf))SU:BLIMATION:LFUR TARTAR::-2 TIN:_ORE:CTURE TRIDENT TUTTY URINE VERDIGRIS
VINEGAR[OF_ay]VINEGAR-:2:3 VITRIOL::-2 wz WAX)af_y AL:EMBIC:ERT:IEN_MONSTER:L(AROUND-PROFILE eq_TO)
ALM::OST_eq(OR_eq_TO TO[w_ci_ae])al_ONE-WAY_f_WAY_uz ALTERNATIVE_KEY_y
AM:ALGAMATION_OR_COPRODUCT:BULANCE:ERICAN_FOOTBALL am AMPHORA ANATOLIAN_HIEROGLYPH(A001~331
A0:10A:26A:39A:41A:45A:46A:46B:66A:66B:66C:97A:98A A10:0A:1A:2A:4A:4B:4C:5A:5B:7A:7B:7C
A1:10A:10B:15A:25A:35A A20:2A:2B:7A:9A A2:15A:16A:27A:67A:89A:94A:99A A3:09A:29A A332:A:B:C A333~382
A336:A:B:C A3:59A:64A:68A:71A:81A:83_RA_OR_RI:83A A384~392 A3:86A:93_eg A394~409
A410:_BEGIN_lv_m:A_ed_lv_m A411~497 A45:0A:7A A501~530)AN:ATOMICAL_ht:CHOR q_w_dz ANGER_y ag[w(S_iz
un)]AN:GRY_fa:GSTROM_s:GUISHED_fa:KH:T:TENNA_w_BARS ai(INTEGRATION tr(bt_uh_a f_uh_a oe_k_a r_uh_a
ug_uh_a)&172)AP:C:L_FUNCTIONAL_y(ax[un]bc_ba k(bc JOT sa ux un &9)cm_ba DEL(ux ti &9)ur( ux un)dm_un
dw(um_ti xv_ux tc(JOT un))do_VANE ep_un gr_da I-BEAM iq[un]JOT(un &9) f_xv_ux le_VANE om[un]QUAD[bc
k cl DEL::TA dm DIVIDE dw_um eq JOT nj_eq qe sk UP_um &75 &47 &113]QUOTE(QUAD un)zw i_VANE sm_un
sk_ba SQUISH_QUAD sa_da ux_ti ti_da UP(um_ti xv_JOT tc(JOT ob &9))up_VANE ZILDE)APOLLON ap
APP:LICATION_PROGRAM_COMMAND:ROACHES_qi_LIMIT:ROXIMATELY( BUT_nj_ACTUALLY_eq_TO eq(OR_eq_TO
TO[OR_qi_ik_OF]))AQUARIUS aj(BASELINE_rn_dz cy(DAMMA::TAN fc ft ks kn)uq[md_o w_dz
&14]xa[&14]D:ATE_se:ECIMAL_se:ISPUTED_ed_OF_AYAH d_r_ar_b[w_dz] zh_mj EMPTY_ce(hh_sz
lw_sz)ed_OF(AYAH qq_m)fc[md_o w(ri tw_dt &8)&14]ft[&14]fv_pi_sa FOOTNOTE_mx ha_mj_ov_mj hm (&1)in_uq
ks[md_o w_dz_e &14]kn[&14]lr(k_e rn_dz(iz_k_e &1))f_ar(&1)l( AE AFRICAN(FEH nq
qf[w_th_dt_b])yf[w(th_dt(po_do_b &1)tw_dt(b ve_b))&15 &0]af[mk[&15]WASLA[&15]w( ATTACHED(bt_r_ks[q
(f_ri &8)]fc ks f(hm rn_dz)r(hm rn_dz)rn_dz(&1)ug_r_fc[q(f_ri &8)])hm(b[ &15]e[&15])f_j_t
mj_b[&15]r_j_t[q(f_ri &8)]wv_hm(&1)&8 &128)&15]BEEH[&15 &0]BEH[w(dz_e_q_th_dt_b hm_b in_z_V_e z(mm_b
V[e])th_dt(HORIZONTALLY_e po_up_e[q_tw_dt_b])tw_dt_e_q_dz_b)&15 &0]BEHEH[&15 &0]DAD[w_dz_e &15
&0]DAHAL[&15]DAL[w(dz_e[q_z_TAH]fo_dt_b in(z_V_e V)ri th_dt(b_do e)
tw_dt_ve_e_q_z_TAH)&15]DDAHAL[&15]DDAL[&15]dl(BEH FEH qf)DUL[&15]DYEH[&15 &0]E[&15 &0]FARSI_ye [w(
ee_aa_dg(fo_e th_b tw_b)in_V tw_dt_b &77)&15 &0]FEH[w(dz(e[q_th_dt_b]MOVED_e)th_dt(e po_up_e )
tw_dt_e)&15 &0]GAF[w(in_t ri tw_dt_e &77)&15 &0]gb[w(&26 &77)&15 &0]GRAF GUEH[&15 &0]hz[w(
ee_aa_dg_fo_e hm_b in_z_V_e z_aj_l_TAH(q_tw_dt &1)th_dt(b po_up_e)tw_dt(b v_b))&15 &0]hm[&14]zo[
DOACHASHMEE[&15 &0]GOAL[w_hm_b &15 &0]w(in_V ye_b[&15])&15 &0]hh_hm[af ww ye]je[w(th_dt(&1)tw_dt_b)
&15 &0]JEH[&15]kf[w(ri th_dt_e tw_dt_b &38)&15 &0]KASHMIRI_ye KEHEH[w(z_V th_dt(po_up_e &1)tw_dt(b
ve_e)&8)&15 &0]kh[&15 &0]kj(OE[&15]YU[&15])yl[w(ba d_ba z(aj_l_TAH_b V)th_dt(&1)&8)&15 &0] lw_af m
mm[w(&38 &77)&15 &0]NG[&15 &0]NGOEH[&15 &0]nq[GHUNNA[&15]w(in_z_V ri z(TAH V)tw_dt_e &26 &77)&15
&0]NYEH[&15 &0]OE[&15]PEH[w_z(mm_b V)&15 &0]PEHEH[&15 &0]qf[w(dz(b e[q_NO_dt_b])&77)&15 &0]
REH[w(dz_e[q_dz_b]fo_dt_b hm_b in_V lp ri z(aj_l_TAH_q_tw_dt nq_b V[e])t tw_dt(b ve_b))&15]RNOON[&15
&0]ROHINGYA_ye RREH[&15]SAD[w(th_dt(&1)tw_dt_e)&15 &0]zx[w(dz_e_q_dz_b ee_aa_dg_fo_b fo_dt_b in_V
z_aj_l_TAH_q_tw_dt th_dt_e[q_th_dt_b]tw_dt_ve_b)&15 &0]SHEEN[w_dz_e &15 &0]st_ww sp_af SWASH_kf TAH[
w(th_dt(&1)tw_dt_b &26)&15 &0]TCHEH[w(z_V &8)&15 &0]TCHEHEH[&15 &0]TEH[MARBUTA[GOAL &15]w(ri z(TEH_b
V)th_dt_b_do)&15 &0]TEHEH[&15 &0]THAL[&15]THEH[&15 &0]THIN_ye TTEH[w_z_V &15 &0]TTEHEH[&15 &0]U[
w_hm_b[&14]&15]UIGHUR_KAZAKH_kj_af_mk(&0)VE[&15]VEH[&15 &0]ww[w(dz(b wt)hm_b[&15]ri tw_dt_b
&128)&15]ye[BARREE[w(hm_b[&15]&128)&15]w(hm_b[&15 &0]z_V t:l:h_dt_e:w_dt_e_q(hm_b z_nq_b &8))&15 &0]
YU[&15]ZAH[&15 &0]ZAIN[w_in_V_b &15])la(yf_w(je(w_mm(&10)&16)mm(w(mm(&10)&29)&16)&23)AKBAR_is_o
ALAYH:AA_vb:E_is_o:I(AS-SALAA:M:TU_WAS-SALAAM)ALAYHIM:_vb:AA_vb af(mk_w_sp_af(
&15)w_ft(&15))ALLAH_is_o AZZA_WA_JALL BEH_w(hz(&16 &65)je(&16)kh(&16 &65)mm(&15 &0)&23 &94)
BISMILLAH_AR-RAHMAN_AR-RAHEEM DAD_w(hz(w(&29)&16)je(&16)kh(w_mm(&10)&16)mm(&16)REH(&15)&23)FEH_w(hz(
&16)je(&16)kh(w_mm(&10)&16)mm(&16 &65)&23)gb_w(je(&16)mm(w(mm_fi_o &29)&16)&23)hz_w(je(&16 &65)
mm(w(&29)&16)&23)zo_w(af_mk_is_o je(&16)mm(w(je_ii_o &54)&16)sp_af_ii_o ye_is_o)JALLAJALALOUHOU
je_w(hz(w(&29)&16)mm(w(hz(&10)&29)&16)&23)kf_w(af(mk(&15)&15)hz(&16)je(&16)kh(&16)yl(&15 &0)mm(w(
mm(&10)ye_fi_o)&15 &0)ye(&15))kh_w(hz_is_o je(&16)mm(&16)&23)yl_w(af(mk(&15)w(hm(b(&15)e(&15))mj_b(
&15))&15)hz(w(mm(&10)&29)&16)zo_ii_o je(w(je(&10)mm(&10)ye_fi_o)&16)kh(w_mm(&10)&16)mm(w(hz(&10)
ye_fi_o)&15 &0)ye(&15))mm_w(af(fi_o mk_is_o)hz(w(je_ii_o ye_fi_o &54)&16)je(w(hz_ii_o kh_ii_o
ye_fi_o &54)&16)kh(w(je_ii_o ye_fi_o &54)&16)mm(ii_o &15 &65)ye_is_o)MOHAMMAD_is_o nq_w(hz(w(&29
&54)&16)je(w(hz(&10)mm(&10)&29)&16)kh(&16)mm(w (&29)&15 &0)&23 &94)qf_w(hz(&16)mm(w(hz(&10)mm_fi_o
ye_fi_o)&16)&23)QALA_USED_AS_KORANIC_sz_s_is_o QUDDISA_SIRRAH RADI_ALLAAHU(ANH::AA:UM:UMAA:UNNA)
RAHIMAHU:_ALLAAH:M_ALLAAH RASOUL_is_o REH_w_sp_af_is_o SAD_w(hz(w(hz(&10)ye_fi_o)&16)kh_ii_o mm (
w_mm(&10)&16)REH(&15)&23)SAL:AAMUHU_ALAYNAA:AM_is_o:LA(USED_AS_KORANIC_sz_s_is_o &14)
SALLALLA:AHU_ALAYHI_WA-AALIH:HOU_vt_WASALLAM:HU_ALAYHI_WAAALIHEE_WA-SALLAM zx_w(hz(w_je_ii_o &0
&14)zo(&0)je(w(af_mk_fi_o hz_ii_o)&0 &14)kh(w(&29)&0 &14)mm(w(hz(&10)je_ii_o mm(&10))&0 &14)REH(
&15)&23)xt_w(uq(md_o &14)xa_is_o fc(md_o &14)ks(md_o &14)kn_is_o sp_af_is_o)SHEEN_w(
hz(w(mm(&10)ye_fi_o)&15 &0)zo(&0)je(&15 &0 &65)kh(&15 &0)mm(w(kh(&10)mm(&10))&15 &0)REH(&15)&23)
SUBHAANAHU_WA_TAAALAA TA:BAARAKA_WA-TAAALAA:H_w(hz(&16)mm(w(hz(&10)ye_fi_o &54)&0 &14)&23)TEH_w(hz(
w(je(&10)&54)&16)je(w(&29 &54)&16)kh(w(&29 &54)&16)mm(w(hz_ii_o je_ii_o kh_ii_o &29)&15 &0)&23 &94)
TH:AL_w_sp_af_is_o:EH_w(zo_md_o je_is_o mm(&15 &0)nq_fi_o REH_fi_o ZAIN_fi_o &23)
UIGHUR_kj_ye_w_hm_b_w_af_mk(ii_o &15)WASALLAM_is_o ye_w(hz(&16 &65)hm_b_w(AE(&15)af(mk(&15)&15)
E(ii_o &15)hz(&16)je(&16)kh_ii_o mm(&15 &0)OE(&15)U(&15)ww(&15)ye(&15)YU(&15)&94)je(&16 &65)kh(&16)
mm(w(mm(&10)ye_fi_o)&15 &0)&23 &94)ZAH_w_mm(&0 &14))mj_WAAJIB MADDAH_b m(nq_GHUNNA
jw_nq_GHUNNA)mc(af dl(BEH FEH nq qf)db(je zx SHEEN &104 )ii(BEH FEH zo kf yl mm TEH THEH &127)je kf
LOOPED(af zo je zx SHEEN &104)op(hz_w_DAL mm_w_hz_w_TATWEEL)S:EEN:HEEN:TRETCHED(BEH dl(BEH FEH)FEH
zo kf mm T:AH:EH:HEH ZAH &127)TAILED(dl(nq qf)yl &127)&104)nu(m_b s)oe(xa ft
kn)P:ERCENT_s:IASTRE_m_b:LACE_OF_SAJDAH:OETIC_VERSE_s:OUND_m_b ra_rn_dz RAY re_uq r_ar(b[w_dz]e )
ru_hh_sz_w_FILLED_ce sm xt[md_o &14]s(vt_ASSALLAM MISRA RA:DI_ALLAHOU_ANHU:HMATULLAH_vt
SA:FHA:LLALLAHOU_vt_WASSALLAM:MVAT:NAH SINDHI(am POSTPOSITION_MEN)TAKHALLUS)z(uq FA:RSI_ye:THA hh(yf
dl_hd_OF_kh FARSI_ye FOOTNOTE_mx je yl_af la(af_w_yl_w_ye qf_w_yl_w_af_mk SAD_w_yl_w_af_mk)mj
mm(&16)nq[w_ks]qf ru_ze SAD zx s_SAFHA TAH th_dt UPRIGHT_RECTANGULAR_ze ww
wo(A:L-JUZ:N-NISF:R-RUB:S-SAJDA:TH-THALATHA QIF SA:H:KTA WAQFA)ye[BARREE_w_tw_dt_e]ZA:H:IN)ks lw(mm
nq_w_ks zx ww wo(IMAALA ISHMAAM TASHEEL))ww ye)xz_OF_RUB_EL_HIZB SU:BSCRIPT_af:KUN[e md_o &14]
sp_af_MOKHASSAS y(d_v_ba_e fo_dt(&1)ri z_TAH(&1)th_dt(po_do(&1)&1)tw_dt(ve(&1)&1)WASLA_b &38)
tl_FRAGMENT TATWEEL[w(ft_b OVERSTRUCK(hm ww)tw_dt_e)]tz_se tn(lp(&1)on_dz(&1)tw_dt(&1))tp_dz_u_m
td_uq_e v_tl vo_s(in_z_V_b z_V_b &26)wv_hm_e ZWARAKAY &11 &49)aa(CUBE_ROOT FOURTH_ROOT PER( MILLE_s
tq_to_s)&7)AR:C:IES:MENIAN(ab_m ap ca_l(YI &168)DRAM_s EMPHASIS_m hy mo_l_f_ha_ri z(l(td_AYB
YI[&36]&168)la(ECH_YIWN MEN(ECH INI NOW XEH)VEW_NOW))&11 &60)a_po(do_THEN_CURVING(&88)
i_THEN_CURVING(sj_we &76)up_THEN_nr_we)ARROWHEAD-SHAPED_pf ARTI:CULATED_LORRY:ST_PALETTE
AS:CENDING_NODE:CIA_y:SERTION as[op]AST:ERISM:ONISHED_fa:RAEA:RONOMICAL_y_fx_URANUS
A:SYMPTOTICALLY_eq_TO:THLETIC_xv:TOM_y:UBERGINE:USTRAL_s AUTO:_RICKSHAW:MATED_TELLER_zs:MOBILE
AVESTAN(ab_m l(AA::N:O A:E:EE:N:O BHE EE G:E:GE:HE HE HME II KE LE NG:E:VE:YE NNE NYE OO SHYE SSHE
TTE UU XVE XYE YE YYE ZHE &3 &107))AVOCADO AXE"

/-- The names that start with `B`. -/
def namesInB : String :=
  "BABY[ANGEL vz CHICK y]bf(OF_en w_le_a_b)BACK:-TILTED_go_wh_i_a:SLANTED_sj_a_w(hk_tl
h_tl)BAC:KSPACE:ON:TRIAN_CAMEL
BA:DGER:DMINTON_RACQUET_q_SHUTTLECOCK:GEL:GGAGE_CLAIM:GUETTE_BREAD:LINESE(ADEG_ADEG CARIK(
PA:MUNGKAH:REREN SIKI)l(AIKARA AKARA[tx]ah_JNYA ASYURA_oj BA[KEMBANG]CA[LACA]DA[MADU mr(ALPAPRANA
mh)]EF_oj EKARA GA[GORA]HA IKARA[tx]JA[JERA]KA[mh]kf_oj KHOT_oj LA[LENGA[tx]]MA NA[RAMBAT] ng ny
OKARA[tx]PA[KAPAL]RA[REPA[tx]]SA[SA:GA:PA]TA[LATIK mr_mh TAWA]TZIR_oj UKARA[tx]VE_oj WA YA
ZAL_oj)ms_y(co(BENDE ENDEP GONG jg KEMPLI[w_jg]KEMPUL[w_jg]TEGEH)DA:ENG:ING:NG[ GEDE
SURANG]D:ENG:EUNG:ING:ONG:UNG LEFT-HAND(cx(PL:AK:UK)oe(P:ANG:ING:UNG))RIGHT-HAND(cx(TAK TUK)oe( DAG
DUG)))PAMADA[LANTANG]PA:MENENG:NTI[LANTANG]s(BISAH CECEK REREKAN SURANG ULU(gx RICEM))vo_s(
LA_LENGA[tx]PEPET[tx]RA_REPA[tx]SUKU[ILUT]TALING[REPA[tx]tx]tx ULU[SARI])WINDU &7)bz_OF_YARN
BALL:ET_SHOES:OON bp_as BALLOT(bv_sr_X bj[w(BALLOT bv(jr sr_X)jr lg_X sr_X X)]sr_X X)BAMUM(cl
co_m(KOQNDON TUKWENTIS)l(F:AAMAE:EE:U I K:EUX:I:OGHOM:OVUU LEEEE LU M:EN:I:U ng NJEE NTUU O PHASE-A(
FIRI GBIEE_FON GHEUAE:GHEUAE:RAE K:AFA:AQ:ET:EUKEUTNDA:POQ:UOQ L:APAQ:ET_KUT:OMMAE:U:UAEP
MAE:KEUP:M:MBGBIEE:MKPEN:MVEUX:NYI:SI M:ANSUAE:AP_PIEET:BANYI:BAQ:EUNJOMNDEUQ:GBASA:ON_NGGEUAET
MOOM:EUT:PUQ MVEUAENGAM N:AA_MFON:AQ:DA_xg:DAANGGEUAET:EN:GANGU:GGEN NGKUE:_MFON:NZEUM
N:IKA:JAM:KAARAE:KINDI:SHA:SHIEE:TAP[MFAA NTAA]NTOQPEN NY:ET:I:IT_MONGKEUAEQ NZ:A_MFON:UN_MEUT
PA:_xg:AM:ARAE:MSHAE:SHAE PET PON(MFON(PIPAEM:BA:GBIEE)PA_NJI(PIPAEM:BA:GBIEE))PUP ROM SEUNYAM
SH:INDA_PA_NJI:IRAE:OQ_NSHUT_YUM:UENSHUET:UM SISA SO:NJAM:Q:T SUU TEU:AEN:TEUWEN TITA_MFON
TU:_MAEMBA:AEP U_YUQ_NAE UNKNOWN VEE)PHASE-B(FE:E:UX GHEUGHE:N:UAEM KAM KEU:AEM:PUQ:YEUX KI:EEM:Q
L:AANAE:AM_NSHUT_NYAM:ET:OM_NTEUM MA[NJ:EUAENA:UQA]MB:A_MAELEE:AARAE:EURI:IT_MBAAKET:UOQ
MEU:Q:T_NGGEET MF:IYAQ:ON_TEUAEQ MONTIEEN NDU_NJAA NGG:AAM:EU_MBU:UOQ[lr]
N:GKINDI_MVOP:GOM:SEN:SHUET:TIEE_SHEUOQ:YAEMAE:YI_NTEUM P:ARUM:EESHI:IT:UNGAAM
S:AKEUAE:ET_TU:HET_NJAQ:HEUAEQTU:IEE:UE TAAM TU(MAEMGBIEE NSIEE)VEUM WUAET YAFU_xg YEURAE)
PHASE-C(BUNG FUE GBAYI GHA:P:RAE KAA KEN(FATIGUE LAW)KET KEU:KAQ:M:SEUX:SHEUAEP KPARAQ
KU:OP_NKAARAE:T L:AM:AP:IQ:U MA(KEUAERI NSIEE)MAE:MBA:SI MBAA(CABBAGE-TREE PICKET)
MB:ANYI:EEKEET:ERAE:EUM:EUX:I:IRIEEN:IT:UAEM:UE M:GBASAQ:IEE:UAE NA:NSANAQ:Q
ND:AM:AP:EUAEREE:EUT:IDA:OMBU NG:AQ:GEN NGGU::AEN_NYAM:EET:M:ON NG:KAQ:KUE_MAEMBA:OM
NJ:AEM:AM:EEEE:EUX:UEQ NS:A:EUAEN:HAQ:OM:UN:UOT_NGOM NT:AA:EN:EUNGBA:U_MBIT NYIR_MKPARAQ_MEUN
NZ:A:EUM PEN PI:N:RIEEN RU S:ETFON:EUX:HIQ:HUEQ:UAET TAASHAE TE:T:UTEUX TIT:A_YUE:UAEP VEU:AEPEN:X
WANGKUOQ WUP YAA YEUQ YU:_MUOMAE:M:WOQ)PHASE-D(FAA FEUFEUAET GH:AA:EUAE KET KEU:AETMEUN:M:OT_MBUAE:P
KU::N:OM:Q KWAET KYEE LE:EEE:T:UAEP:UM L:IEE:OQ:UM M::AENJET:ALEERI:BAA[sv]MBUO ME:EEE:UN:UT
MF:EUAE:EUT:IEE:O:ON MGB:EUN:IEE:OFUM M:ONI:U:VOP ND:AM:EE:EUX:ON NGG:AAM:AAMAE:AP:EUX:UOM:WAEN
NGK:AP:EUAEQ:EURI:IEE:UN:YEE NI NJ:AP:EUAEM:EUT:I:IEE:UEQ NS:HEE:HUT:IEEP:IEET:UM NT:EE:EUM:UU NU
NY:AM:ET:I:UE P:AP:EE:EUTAE:IP:UQ:UUT RAEM REN(MUCH of)RII SA:P:Q SEUAEQ SH:EE:EUAE:EUX:II:OQ:U SOT
SU:AE:E:U TAE TEEEE TEU:AEN:N:T T:I:OQ:U:UOT WAP WUAEN YAEMMAE YEN YU:OM:OP:WOQ)PHASE-E(A
F:A:AQ:EE:OM:U(CALL I REMEDY)FUE::T GBE:T:UX GH:AAMAE:ET:EUAE:EUN:EUX:OM I KE:T:UAE:UX K:I:O:PEUX
KU:ET:OP:T LA:AM:P:Q LEUAEM LO:M:ON:OT:Q LU MA::E:EM:P:Q MBE:E:UM M:EN:FEUQ:GBA:GBEN:I:IEE:ON:UAE:VI
NA::E NDAA(MY_HOUSE SOFTNESS)ND:AP:IAQ:IQ:UN ng NGEUREUT NGGE:EEE:UAE:UAET NGGU:AESHAE_NYAM:P:RAE
NGK:A:AAMI:EUAEM:EUX:UM:UP NGO:P:Q NGUAE::T NJ:AEMLI:EE[EPOCH]NJEUX NKOM NSH:IEE:UE:UOP NT:AP:UM
NYI(be CLEAVER)NZ:AQ:UQ O PA(PEOPLE PLURAL )PAA::M PE:EM:UT:UX PI::EEQ:ET PO::ON PU::AE:AQ:E:M
R:AE:AQ:EUX:IMGBA S:AA:EE:ET:HEUAEQ:HIQ:HO:HOQ:OM:UAEN TA:A:AQ:EN_NTEUM:M:Q tq TEU::AEQ TO:O:ON:Q
TU:AE:M:MAE VE:E:UAE VOM WEUX WU:E:O YAP YEU:AE:AET:M:X YI:EE:T YOQ(COVER SWIMMING)YU:AEN:EQ:N:Q)
PHASE-F(KA LA MA VUEQ &152)PI PUE RAE SHEUX tq TI YUQ &13 &152)NJAEMLI sm &11 &49)
BAN:ANA:JO:K:KNOTE_w(xd_s EURO_s POUND_s YEN_s)ba(CHART OF_SOAP)BARBER_POLE
BAS:EBALL:KET:KETBALL_q_HOOP:SA_VAH(co(HIGH-LOW_tn LOW-MID_tn MID_tn &89)fu_sz l(BA CE DHII DO EE
ENNI FA GAH GBU HWAH JO KA KPAH MBE OO PA SE TO UWU VU WA::DDA YEIN YIE ZO &3))BAT::AK(cn_s(H NG)l(A
BA CA DA GA HA I JA KARO_BA LA MA::NDAILING(HA NA SA)MBA NA NDA ng NORTHERN_TA ny PA::KPAK_WA RA SA
SIMALUNGUN(A GA HA LA MA PA RA SA WA YA)SOUTHERN_TA U WA YA)PAN:GOLAT:ONGONAN s_TOMPI y_BINDU(JUDUL
NA_METEK PANGOLAT PINARBORAS)vo_s(E EE I KARO(I O)O PAKPAK_E U[fx_SIMALUNGUN_SA]))BAT:H:HTUB:TERY
BEA:CH_w_ub:MED(ASCENDING_ms_ns dc_ms_ns ei_ns vj_ns) BEA:NS:R_fa:RDED_ps:TING_ht:VER
BE:CAUSE:D:ER_MUG:ETLE:L:LL[PEPPER y w_ok_t] BE:LLHOP_BELL:NGALI(ANJI AU_lt_m qk(DENOMINATOR_SIXTEEN
NUMERATOR(fo on[ LESS_THAN_qi_DENOMINATOR]&5))GANDA_m ISSHAR l(yi DD:A:HA xc GA gh jh KHANDA_TA nd
RA[w(lo_di j_di)]RHA rr uw TT:A:HA VEDIC_an YA YYA &87 &13 &61 &55)rp(m s)xq_m s(&79 &53)vo_s(&87)&7
&35) bn_a_po_do_THEN_nr_es BEN:TO_bj:ZENE_ri[w_k]BET_y be BEVERAGE_bj BHAIKSUKI(GAP(FILLER-:1:2)
hf_UNIT_m l(AU E O vc(L R RR)&62 &4 &20)nu(&6 &92)s(av &79 &40)vo_s(AU E O vc (L R RR)&4)wo_se &7
&44)BICYCL:E:IST BIG(rv_so so)
BI:KINI:LLED_CAP:LLIARDS:OHAZARD_s:RD:RTHDAY_CAKE:SON:TCOIN_s:TING_LIP bl(BOWTIE ce_wh_sa k[
fx_RECORD w(dw_a tw_wh_dt wh_dz_r)]cs_ON_SHIELD cv(do_q(&75)le_q(&113)i_q(&113)up_q(&75))dm[cf
mi_wh_X ON_cs SUIT w_dw_a]dw_po_bk_id dn(d_n iw_r_n z_n n)do_eu_ar DROPLET f:g:d:o_pi_sa lr(&27)lf(n
&196)le(bu eu_ar)lo(f_n r_n)lj me(dn_n[cf]lf_n[cf]rg_n[cf]z(&85)uo_n[cf]&85) mz_LILITH OCTAGON
PUSHPIN rg(pk n[w_d_v_ba]&196)i(a ar bu eu_ar)ROSETTE
S:AFETY_jt:KULL_q_CROSSBONES:LIGHTLY_z(&27)z(sa &85)SNOWMAN sq[bx cf fx_sz]SUN_w_zv TINY(&85)TRUCK
UNIVERSAL_ry_y UP_po_bk_id uo(d_n iw_r_n z_n n)ue(f_n r_n)up_eu_ar v(em rc) vy_z(&85)&140)vn(nr_es_a
i_a sj_es_a)BLACK-LETTER_ca(C H I R Z)BLANK_y bo(SEXTANT-1~6 SEXTANT-12~16 SEXTANT-123~126
SEXTANT-1234~1236 SEXTANT-1:2345:2346:2356:245:2456:246:256:34:345:3456:346:356:36:45:456:46:56
SEXTANT-23~26 SEXTANT-234~236 SEXTANT-2:345:3456:346:356:45:456:56 SEXTANT-34~36
SEXTANT-:345:3456:346:356:45:456:46:56)BL:OSSOM:OWFISH:UE(BOOK ht)BLUEBERRIES BOAR bv(eg_gg_as
np_gg_as &106)BO:M:MB:NE:OK:OKMARK[TABS]BO:OKS:OMERANG:POMOFO(fi_l(G H K P T)l(
A::H:I:INN:M:N:NG:NN:U:UNN BU C CH E::E:H:I:N:NG:NN:R F G::H:N:U:W H I::H:M:NN:NNN:R:U J JI KW L LH
NG::G NN O[w_dz_b]O:E:M:NG:NN:O:U R SH U UNN V X Z::H:I:Y &66))vz_w_POPPING_CORK bt (yh_ai_a ha(bl_k
ie &100)f(cz CROP ha_c)r(cz CROP ha_c)sq_c[ov_ug_sq_c]&73)BOUQUET[OF_FLOWERS ]BOW:_q_a:L( OF_HYGIEIA
w_SPOON)BOW:LING:TIE[w(&59)]bj_DRAWINGS(d(dw_q(&2 &41)UP_q(&2 &41)v[q(&2 &41)]&41)dw( he_q(h_lg f(lg
UP_lg)r(lg UP_lg)UP_h_lg)lg_q(h_he f(he UP_he)r(he UP_he)UP_h_he)&121)he(f[q_lg_r]UP[ q(lg_dw &2
&41)]&155 &41)f(dw_he_q_r_UP_lg he_q_r(dw_lg UP_lg v_lg)lg_q_r(dw_he UP_he v_he)
UP_he_q_r_dw_lg)lg(yh(dw_q(&2)UP_q(&2))di(cs dm j(f_TO(lo_ce[TO_j_r]ue_ce_TO_j_r[TO_lo_ce])r_TO(
lo_ce ue_ce_TO_j_f_TO_lo_ce))ue(ce_TO_j(f[q_j_r_TO_lo_ce TO_lo_ce[TO_j_r]]r[q_j_f_TO_lo_ce TO_lo_ce[
TO_j_f]])f_TO_lo_r r_TO_lo_f))h[w_v_t]f[q_he_r]UP[q(he_dw &2 &41)]&155)r(dw_he_q_f_UP_lg he_q_f(
dw_lg UP_lg v_lg)lg_q_f(dw_he UP_he v_he)UP_he_q_f_dw_lg)UP(he_q(dw_h_lg h_lg f(dw_lg lg)r(dw_lg lg)
)lg_q(dw_h_he h_he f(dw_he he)r(dw_he he))&121)v(he_q(h_lg f_lg r_lg)lg_q(h_he f_he r_he)&121))
BO:XING_GLOVE:Y:YS_y BPH BRAHMI(l(ll of_TAMIL(ll xh NNNA rr sh(E O))&62 &87 &20)nu(eg fv fo jo nx
on[&12]sv np &92 &5)u(js_ba dz d_dz lz LOTUS)s(ji of_TAMIL_vi ua &40 &78)vi vo_s( BHATTIPROLU_AA
of_TAMIL_sh(E O)&87)&7 &44)BRAI:LLE_PATTERN_BLANK:N BREA:D:K_PERMITTED_HERE:ST-FEEDING br
BRI:CK:DE_w_VEIL:DGE_AT_NIGHT:EFCASE:EFS BRO:CCOLI:KEN(ba k_w_NORTHWEST_a ht)BRO:OM:WN_ht BS bq_TEA
BU:BBLES:CKET:G:GINESE(ed_OF_sc l(BA CA DA GA HA JA MPA ng NGKA NRA ny NYCA RA SA TA VA YA
&13)PALLAWA vo_s(AE E I O U))BUHID(l(A I LA ng U &18)vo_s(I U)) bd_CONSTRUCTION
bu[op]BULLHORN[w_gv_WAVES]BU:LLSEYE:RRITO:S[sz] BUST:_IN_qz:S_IN_qz BUTTER::FLY
BY:TE_ORDER_m:ZANTINE_ms_y(AGOGI(ARG:I:OTERI GORG:I:OTERI ME:SI:TRIA POLI(ARGI GORGI))ANATRICHISMA
ANTIKENO:KYLISMA:MA APESO(ek EXO_nc) AP:LI:ODERMA(&45)APOSTROFOI(SYNDESMOS_nc
TELOUS_ICHIMATOS)APOSTROFOS[dp nc]APOTHEMA ARGO:N:SYNTHETON ARKTIKO(DI GA KE NI PA VOU
ZO)CHAMIL:I:ON CHOREVMA(&45)CHROA(KLITON SPATHI ZYGOS) DASEIA DIA:RGON:STOLI(APLI(MEGALI MIKRI)dp
THESEOS)DIESIS(yq &183)DI:FTOGGOS_OU:GORGON[ ym(ARISTERA(ANO kb)DEXIA)]DIGRAMMA_GG dp[ao]DYO
E:KSTREPTON:LAFRON:NARXIS_KAI_FTHORA_VOU:NDOFONON:PEGERMA:TERON(ARGOSYNTHETON PARAKALESMA)EXO_ek
FANEROSIS(DIFONIAS MONOFONIAS TETRAFONIAS)FHTORA_SKLIRON_CHROMA_VASIS FTHORA(ao[DEYTEROU_ICHOU]
DIATONIKI(DI KE NANA NI(ANO kb)PA ZO)ENARMONIOS_ANTIFONIA I_YFESIS_yq MALAKON_CHROMA( DIFONIAS
MONOFONIAS)NAOS_ih NENANO SKLIRON(CHROMA(SYNAFI VASIS)DIATONON_DI))GENIKI(DIESIS YFESIS) GORGON(ao
nc(ANO kb)ym(ARISTERA DEXIA))GOR:GOSYNTHETON:THMIKON_N(APLOUN DIPLOUN) GRONTHISMATA ICHADIN
IMI:DIARGON:FONON IMIFTHOR:A:ON IS:AKIA_TELOUS_ICHIMATOS:ON(&45) KATAVA:_TROMIKON:SMA KATHISTI
KENTIMA(ao nc(ANO kb MESO))KENTIMATA[ao nc(ANO kb MESO)]KLASMA[ ANO kb]KONTEVMA[ALLO]KO:RONIS:UFISMA
KRATIMA(ALLO &45)KRATIM:ATA:OKOUFISMA:OYPORROON KREMASTI KYLISMA LEIMMA(DYO_yx ENOS_CHRONOU
IMISEOS_CHRONOU TESSARON_yx TRION_yx)LEMOI LYGISMA MARTYRIA(ALLI(DEYTEROS_ih PROTOS_ih)DEYTEROS_ih
LEGETOS_ih PLAGIOS(ih TETARTOS_ih) PROTO:S_ih:VARYS_ih TETARTOS(ih LEGETOS_ih)TRI:FONIAS:TOS_ih
VARYS_ih)MIKRON_ISON NANA OLIGON(&45) OMALON OXEIA(dp ek nc)OXEIAI_ao
OYRANISMA(&45)PARAKALESMA(&45)PARAKLITIKI[&45]PARICHON PELASTON[ nc]pe PETAS:MA:TI:TOKOUFISMA
PIASMA(&45)PSIFISTO:LYGISMA:N[nc]PSIFISTO:PARAKALESMA:SYNAGMA px PSILON RAPISMA REVMA SAXIMATA
SEISMA[nc]SIMANSIS(ARSEOS[DISIMOU TETRASIMOU TRISIMOU]THESEOS[DISIMOU TETRASIMOU
TRISIMOU])STAVROS[APODEXIA]ST:IGMA:RAGGISMATA SYNAGMA(META_STAVROU &45)SYNEVMA SYRMA::TIKI
TE:LEIA:SSERA:TRAPLI THEMA[APLOUN]THEMATISMOS(ESO EXO)TH:ES_KAI_APOTHES:ITA TINAGMA TRI:A:GORGON:PLI
TROMIKO:LYGISMA:N(ALLO &45)TROMIKO:PARAKALESMA:PSIFISTON:SYNAGMA VAREIA(dp ek nc) VA:REIAI_ao:THY
XIRON_KLASMA YFEN(ANO kb)YFESIS(&183)YPOKRISIS[dp]YP:ORROI:SILI)"

end PacketSmith.Text.NameTree

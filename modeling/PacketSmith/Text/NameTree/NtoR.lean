/-!
# Names of characters that start with `N` to `R`

The names as a tree of words, in the form that `Text.CharacterName` describes.
-/

namespace PacketSmith.Text.NameTree

/-- The names that start with `N`. -/
def namesInN : String :=
  "N-ARY(cc(dz_op p_op x_op)COPRODUCT it lc(q OR)pd sq(it_op ui_op)vl x_op ui[op_w(dz p)]
wh_v_ba)NABATAEAN(CRUCIFORM_nu_fo l(fi(ul vx HE kg ld xj nn qn YODH)&43 &81)nu(fv fo &5
&63))NA:BLA:IL_POLISH:IRA_s:K:ME_BADGE:ND:NDINAGARI(hq l(AU E ll O rr vc(R RR)&62 &4 &20)s(av jq
&79)vo_s(AU E O ph_E vc(R RR)&4))NA:RROW_NO-BREAK_sx:TIONAL(dg_SHAPES PARK)
N:AUSEATED_fa:AZAR_AMULET:BH:BSP:ECKTIE:EGATED_d_v_ba_d_r_tt nv(ak cc(dg_ze lx_ca_l(&67)nu(ty &72)sq
n)di(cs dm j_r_TO_lo_ce)su(AB cs_m IC lx_ca_l(&67)PA SA WC &49))NEITHER(A(sb_OF_NOR_eq_TO
ss_OF_NOR_eq_TO)yg_NOR_ACTUALLY_eq_TO gr_NOR(ls &64)ls_NOR(gr &64))NE:L:PTUNE[o_tw]
NE:RD_fa:SSUS:ST_w_EGGS:STING_DOLLS:UTER nt(CHESS(&136)fa)NEW(lz mz(y w_fa)SHEQEL_s TAI_LUE(l(fi(B D
K M N NG V)hh(KVA pv SUA vq TSA XVA YA &132)lw(KVA pv SUA vq TSA XVA YA &132))s(LAE::V)THAM_dg_on
tn(MARK-:1:2)vo_s(A:A:AY:E:Y E II IY O::A:AY:Y U::E:EY:U:Y vo_SHORTENER)&7))NEWA(cm dd d(cm dd)
GAP_fl ib_s l(jh LHA MHA ng N:GHA:HA:YHA RHA nf uw VEDIC_an WA YA &62 &87)OM pc_m xq_m SIDDHI
s(fi_an ji ua &79 &53)vo_s(&87)&7 &35)NEWLINE(&2 )NE:WSPAPER:XT(lz PAGE)NI:GHT_w_STARS:NJA
NKO(co(d_dz_b ln(dc_tn rs_tn &89)na_m sh(rs_tn &89))cm DANTAYALAN DOROME_s ex_m hh_tn_ap LAJANYALAN
l(BA qh DA::GBASINNA EE FA GBA HA JA JONA(qh JA RA)KA LA MA N NA[WOLOSO]ny[WOLOSO]OO PA RA rr SA TA
WA YA &3)lw_tn_ap y(GBAKURUNEN OO_DENNEN )TAMAN_s &7)N:L:NBSP:O(BICYCLES BREAK_HERE ENTRY[s]
MOBILE_PHONES on_ud_eb_y PEDESTRIANS PIRACY SMOKING_y)
NO:-BREAK_sx:MINAL_dg_SHAPES:MISMA_s:N-BREAKING_hy:N-POTABLE_wz_y:NFORKING:R:RDIC_m_s
nl_qo_OF[OR_eq_TO]nr(es(q_sj_we_a a[q_sj_es_a cr(nr_we_a sj_es_a)w_ho]&134)INDIC(pc_m QUANTITY_m
qa_m rp_m &202)we(q_sj_es_a a[q_nr_es_a cr_nr_es_a TO(cz ln_ba)w_ho]&134)) NO:RTHEAST-POINTING_aq:SE
nj(A(sb_OF ss_OF)A:LMOST_eq_TO:N_ELEMENT_OF:SYMPTOTICALLY_eq_TO jr_m IDENTICAL_TO
nl_qo_OF[OR_eq_TO]pz_TO s sq(ik_OF_OR_eq_TO ORIGINAL_OF_OR_eq_TO)ti TRUE &47 &64) nh(f_ju_w_th_dt
r_ju_w_th_dt &195)nz[PA:D:GE]NOTEBOOK[w_DECORATIVE_COVER]NUL::L nu(eb_fu_sz ez_fu_sz zl_fu_sz
FOURTEEN_fu_sz NINETEEN_fu_sz SEVENTEEN_fu_sz s SIXTEEN_fu_sz tq_fu_sz THIRTEEN_fu_sz qg_fu_sz
ty_fu_sz)NU:MERO_s:SHU_ir_m:T_q_BOLT NYIAKENG_PUACHUE_HMONG(cc_CA l(AA CA DA DLA E EE FA GA HA hz I
MLA N:CA:KA:PA:PLA:QA:RA NT:A:SA:XA ny O OO PLA QA RA rr SA T:A:SA:XA U VA W XA XYA YA ZA
&13)lv_NYAJ s(fx(ANIMAL INVERTEBRATE xi ps THING)XW_XW)sy_lh TONE-:B:D:G:J:M:S:V &7)"

/-- The names that start with `O`. -/
def namesInO : String :=
  "OBJECT_REPLACEMENT_ch oi(ag_oz(dw UP)hy)OBSERVER_EYE_y OCR(AMOUNT_OF_jr bw_BUCKLE BOW_TIE
BRANCH_BANK_iy CHAIR CUSTOMER_ACCOUNT_nu dh d_bc FORK ho in_FORK)OCT:AGONAL_s:OPUS
O:DEN:FFICE_bd:GHAM(FEATHER_m l(AILM BEITH CEIRT COLL DAIR EA:BHADH:DHADH:MHANCHOLL FEARN GORT IFIN
IODHADH LUIS MUIN NGEADAL NION ONN OR PEITH RUIS SAIL STRAIF TINNE U:ATH:ILLEANN:R)re_FEATHER_m
sx_m)og O:HM_s:IL_DRUM:K_hn_s:L_CHIKI(AHAD GAAHLAA_TTUDDAAG l(AA:J:K:M:W A:G:L:NG:T E:DD:N:P:RR
I:H:NY:R:S L:A:AA:E:I:O:U O:B:H:TT:V U:C:D:NN:Y)MU:_TTUDDAG:-GAAHLAA_TTUDDAAG PHAARKAA u(d_MUCAAD
MUCAAD)RELAA &7)of(CHINESE(ho_m ir_m)HUNGARIAN(ca_l(&151)nu(ff fv on[&12]tq)z_l(&151))ia(l(BE CHE DE
E:F:KS:L:M:N:R:RS ES::H:S HE II K:A:E:HE:U NORTHERN_TSE PE PHE qt SOUTHERN_TSE TE qi UU VE YE ZE
&3)nm(ff fv on tq))KEY nr_ARABIAN(l(af ES-1~3 GEEM zo kf &104)nu(on &42))PERMIC_l(AN BUR CHERY DOI
DZ:HOI:ITA E EF GAI HA I::A:E KOKE LEI MENOE NENOE O OO PEEI REI SH:CHOOI:OOI SII TAI TSIU U VER
VOOI YA::T YER::I:U YRY YU ZATA ZHOI)PERSIAN(nu(hu on tw &42)s(AURAMAZDAA::-2:HA BA::GA BUUMISH CA
DA DAHYAAUSH::-2 DI DU FA GA GU HA I JA JI KU MI MU NU RA RU S:A:HA:SA T:A:HA:U U VA VI XA
XSHAAYATHIYA YA ZA &13)wo_dv)PERSONAL_wd SOGDIAN(fr_on_ha l(al_vw vw fi(ul vx HE nn[
w_v_tl]SADHE[w_v_tl]TAW[w_v_tl])xj RESH-AYIN-DALETH ww zy &43)la_AYIN-DALETH nu(fv fo jz &5
&63))sj_ARABIAN(l(af AYN vx qw DHA:DHE:LETH FE GHAYN GIMEL HE::TH kg KHETH ld xj nn QOPH rh
SA:DHE:MEKH:T qn T:AW:ETH:HAW:HETH ww YODH ZAYN)nu(ff on)NUMERIC_ic)TURKIC_l (ORKHON( AE:D:L:R:S AN
AS BASH E:LT:M:NG:P IC O::P:T &192)YENISEI(AE::NG ANG E &192))UYGHUR(co(tw_dt(&1)&38) l(ul vx
fi_HETH GIMEL-HETH kg ld LESH xj nn PE rh SA:DHE:MEKH qn TAW ww YODH zy)u(ba fo_dt tw(BARS
dt))))OLDER(ADULT MAN wm)O:LIVE:M_y:N_w_ex_m_w_f_r_a_b:NCOMING(AUTOMOBILE BUS FIRE_ENGINE POLICE_CAR
TAXI)on(bx_xn dz(LEADER ov_tw_dt_u))ON:E-PIECE_SWIMSUIT:ION oe(BOOK bj ce( as bl_sa cs ts_as)FILE_fd
fd hs_s LOCK MAILBOX_w(LOWERED_fg ra_fg)sb ss)OPEN-CIRCUIT-OUTPUT(H-TYPE_y
L-TYPE_y)OP:EN-OUTLINED_i_a:ERATING_SYSTEM_COMMAND:HIUCHUS os OPTICAL_DISC[ICON]OPTION_KEY
OR:_w_dz_iz:ANGE(BOOK ht)OR:ANGUTAN:IGINAL_OF:IYA(AI_lt_m AU_lt_m ISSHAR l(ll RHA rr WA YYA &62 &87
&20)s(ol &79 &53)vo_s(&87)&7 &202)ORNATE(&100)ORTHODOX_cs OSAGE(ca_l(&13 &179)z_l(&13 &179))
OS:C:MANYA(l(AA af BA CAYN DEEL xc EE FA GA HA JA KAAF kz LAAN MIIN NUUN OO QAAF RA SA SHIIN TA ww
XA YA &3)&7)OTT:ER:OMAN_SIYAQ(al_nu(eg fv fo[hu]nx sv np[hu]tq[to]th tw[to])fr_on(ha SIXTH)MARRATAN
nu(&170))OU:NCE_s:TBOX_TRAY ou(bl_sa ge_cs lx_cs wh_sa)OVER:HEATED_fa:LAP oa(bl_uv wh( q_bl_uv
uv))ol O:WL:X:YSTER"

/-- The names that start with `P`. -/
def namesInP : String :=
  "PA:CKAGE:D:DDING_ch:GE[FACING_UP w(cc_qq cu)]PAG:ER:ES:ODA PAHAWH_HMONG(CLAN_s(FAJ HA:M:WJ
K:HAB:OO:WM LAUJ LIS MUAS PHAB THOJ TS:AB:HEEJ:WB VAJ VWJ XYOOJ YAJ YEEG)cn(AU CAU CHAU H:AU:LAU:NAU
LAU MAU N:AU:CHAU:KAU:LAU:THAU:TSAU PLHAU QHAU RAU VAU XAU YAU)m_CIM(HOM KES KHAV SO SUAM TAUM TUB)
nu(hu_mn hf mn tq(BILLIONS tz)TENS TRILLIONS)s(AV CIM(CHEEM CUAM_TSHOOJ HAIS_LUS_NTOG_NTOG NRES_TOS
PUB_DAWB TSOV_ROG TXWV[CHWV])HLI HNUB IB_YAM LOS MEEJ(SUAB TSEEB)MUS NQIG NTUJ
T:AU:HIRD-STAGE_HLI:XHEEJ_CEEV VOS(FEEM LUB NRUA SEEV TH:IAB:OM TSHAB_CEEB)X:AUS:IAB:YEEM(FAIB NTXIV
zw TOV)XYOO ZWJ_THAJ)vo(KA:AB:AV:B:IB:IV:UB:UV:V:WB:WV KE:B:EB:EV:V KI:AB:AV:B:V KO:B:OB:OV:V
KU:AB:AV:B:V KW:B:V)&7)PAL:LAS:M(BRANCH dw_hn uj UP_hn)PALM:S_UP_qs:YRENE(lf_zn l(fi_nn &43
&81)nu(fv fo on &5 &42)rg_zn)PA:NCAKES:NDA_fa:PERCLIP:RACHUTE pg_se pp PARAGRAPHUS_m pz(TO w(h_t
ti_op))PARENTHESIZED(dg(&6)HANGUL(CIEUC[A U]IEUNG[A]&163)IDEOGRAPH(CALL FESTIVAL RE:ACH:PRESENT SELF
&6 &165)KOREAN_ch(O_HU OJEON)nu(&72 &42)&108)PAR:ROT:T_ALTERNATION_m:TIAL( zd lz(BACKWARD dw fw
UP))PART:IALLY-RECYCLED_PAPER_y:NERSHIP_s:Y_POPPER PASSE:D_y:NGER_SHIP
PASSIVE-PULL-:DOWN-OUTPUT_y:UP-OUTPUT_y PA:SSPORT_zb:U_CIN_HAU(gl_sz[fi va] l(CA E FA fi(K L M N NG
P T W Y)GA I IA ng O RA U UA VA ZA &13 &61)LOW-FALLING_tn[fi ln[fi]] MID-LEVEL_tn[fi ln_fi]rs_tn[fi
ln[fi]]xq(gl_sz[fi]tn[fi ln[fi]]))PAW_PRINTS PD:F:I PEA:CE_y:CH:COCK:NUTS:R PEDESTRIAN
PEN:_ov_STAMPED_en:CIL:GUIN:SIVE_fa pt PE:OPLE_HUGGING:R(MILLE_s s
tq_to_s)PER:CENT_s:FORMING_ARTS:MANENT_PAPER_s:PENDICULAR[w_S]PERSEVERING_fa ps(BOWING_DEEPLY
CLIMBING DOING_CARTWHEEL xf IN(LOTUS_pq STEAMY_ROOM)RAISING_BOTH_hs_IN_CELEBRATION w(bz BLOND_HAIR
CROWN FOLDED_hs HEADSCARF POUTING_fa))PE:RSONAL_wd:RSPECTIVE:SETA_s:SO_s:TRI_dq PHAGS-PA(d_hd_m
l(al_YA ASPIRATED_FA qh DDA EE FA GGA kz LA nd pv QA z_A vq TT:A:HA vd_HA VOICELESS_nf XA &18 &3 &55
&56 &40)m(d_gk gk)si_hd_m jd_l(RA WA YA)SUPERFIXED_l_RA) PHAISTOS_DISC_s(a BEE::HIVE BO:OMERANG:W
BULLS_vg CA:PTIVE:RPENTRY_PLANE:T C:HILD:LUB:OLUMN:OMB co_oi_t DO:LIUM:VE EAGLE FLUTE GAUNTLET
GRATER HELMET HIDE hx LI:D:LY MA:NACLES:TTOCK OX_bf P:APYRUS:EDESTRIAN:LANE_uj:LUMED_hd RAM ROSETTE
SAW SHI:ELD:P SLING z_AXE STRAINER T:ATTOOED_hd:IARA:UNNY VINE wv_BAND wm)PHILIPPINE(d_u
si_u)PHOENICIAN(l(yf ALF BET DELT GAML HE::T kf LAMD xj nn PE QOF ROSH S:ADE:EMK:HIN TAU TET WAU YOD
ZAI)nu(&5 &63)wo_se)PHOLUS PI:CK:CKUP_TRUCK:E:G[fa NOSE]PIL:CROW_s:E_OF_POO:L
PIN:ATA:CHED_fn:CHING_hn:E_DECORATION:EAPPLE pj_sa PI:SCES:STOL:TCHFORK[w_TEE_ug]PLAC:ARD:E_OF
(INTEREST_s WORSHIP)PLANCK_CONSTANT[ov_tw_PI] PLAY:GROUND_SLIDE:ING_CARD(ACE_OF(&30)bf bl_JOKER
eg_OF(&30)fv_OF(&30)FOOL fo_OF(&30)JACK_OF(&30)
KING_OF(&30)KNIGHT_OF(&30)nx_OF(&30)QUEEN_OF(&30)RED_JOKER sv_OF(&30)np_OF(&30)tq_OF(&30)th_OF(&30)
TRUMP-1~9 TRUMP-10~21 tw_OF(&30 )wh_JOKER)PL:D:U:UNGER p_s[b_ea_s IN(f_ha_k r_ha_k n)w(bl_n ci_ae_b
z_k_b vk_tw ti(&1)&26)]PLU:S-MINUS_s:TO[o(fv fo &5)]PM PO:CKET_CALCULATOR:LICE( CAR::S_REVOLVING_lg
OFFICER)PO:ODLE:P_DIRECTIONAL(FORMATTING il)PO:PCORN:RTABLE_STEREO:SEIDON pq_ic POSTAL(hx
m[fa])POSTBOX POT:_OF_FOOD:ABLE_wz_y:ATO:TED_PLANT POU:CH:LTRY_vg:ND_s:RING_LIQUID:TING( CAT_fa
fa)POWER(ON:_y:-OFF_y SLEEP_y y)PR:AYER_BEADS:ECEDES[&157]PREGNANT(MAN ps wm)
PRES:CRIPTION_TAKE:ENTATION_o_fx_v(cl cm EM_dh EN_dh h_el ig(&11)f(wh(cz_c lu_c)&73 &194)lw_lz r(wh(
cz_c lu(c BRAKCET))&73 &194)sm tw_dz_LEADER wv_lw_lz &60)PRE:TZEL:VIOUS_PAGE pm
PRIN:CE:CESS:T_xr_y:TER[ICON]PRIVA:CY_MESSAGE:TE(USE(on tw)USE-:1:2)
PRO:BING_CANE:HIBITED_s:JECTIVE:PERTY_lz PROPORTION::AL_TO PROSERPINA PSALTER_PAHLAVI(fo_dt_w(cs dz)
l(qw MEM-QOPH wy zy &43)nu(fo &5 &63)td_sc_m &50)PU:1:2:BLIC_ADDRESS_LOUDSPEAKER u_sx
PU:NCTUS_ELEVATUS_m:RPLE_ht:RSE:SHPIN:T_LITTER_IN_ITS_PLACE_y"

/-- The names that start with `Q`. -/
def namesInQ : String :=
  "qd(lo(&2)ue(f[q(lo(f_q_lo_r r)ue_r_q_lo(&2))]r[q_lo_f[q_lo_r]]))qp(ie_op pm)qa_nz
QUATERNION_ie_op qe(ex_m m)QU:ESTIONED_eq_TO:INCUNX qu_m"

/-- The names that start with `R`. -/
def namesInR : String :=
  "RABBIT[fa]RAC:COON:ING(CAR MOTORCYCLE)rl_y_bt RADIO[bx]RA:DIOACTIVE_s:ILWAY(CAR TRACK)RAIN::BOW
ra(bf_OF_hn cm dz de_yk_mx FIST hn[w(fn_SPLAYED PART_be_j_q_ri_fn)]yk_mx M:C_s:D_s:R_s
sq)RA:M:T:TIO:ZOR REC:EIPT:ORD_se:REATIONAL_VEHICLE:YCLED_PAPER_y ry_y_fx( GENERIC_MATERIALS
TYPE-:1_pl:2_pl:3_pl:4_pl:5_pl:6_pl:7_pl)RED(APPLE GIFT_en)
RE:FERENCE_m:GIONAL_ic_y_l(&67)RE:GISTERED_s:JANG(cn_s(H N NG R)l(A CA JA LA MBA NDA ng NGGA ny NYJA
&18)vi vo_s(AI AU E::A:U I O U)&50)RE:LIEVED_fa:MINDER_RIBBON:PLACEMENT_ch:SPONSE:STRICTED_f(
ENTRY-:1:2)RE:STROOM:TURN(y &2)rv(CHECKER_BOARD id lg_fo_pi_pj_sa lz_zk so[op PRECEDING_sb w_h_t]
ti_op_b(&75))re(ag[w_un]cm d(pm[qu_m]t_nj_s)EMPTY_SET FORKED_pp hn_w_j_fe_ee nj_s PILCROW_s pm
r:a_hn_w_fn_SPLAYED:_ag:o_FLORAL_ht_bu sn_ca_L sm THUMBS(dw_s UP_s)ti[ea]tp_pm VICTORY_hn &49)
REVOLVING_hb RHINOCEROS RI::AL_s:BBON[a(dw(&2)f(dw UP)r(dw UP)UP(&2))]RICE(bz CRACKER)RIFLE r(q(
lo_on_ei_bo ue_on_ei_bo)ag[c[w_dz]de_gw_mx gw_mx va_w_sq w(yh do_zi_a)]yh_gr_c d(ag_c a_w_ru_hd pa
qu_m wg_FENCE)ha(bl(k sa)bo fd me_gd RUNNING_MAN)oe_su_dz SPEAKER[w( on_gv_wa
th_gv_WAVES)]n[b_f_n]&137)RIGHT-FACING(ARMENIAN_ETERNITY_s FIST SVASTI_s[w_dt])
RIGHT-HANDED_INTERLACED_pt rg(&203)RIGHT-:SHADED_wh_i_a:SIDE_yh_jb_a:TO-LEFT(EMBEDDING il m
OVERRIDE)RIGHTHAND_INTERIOR_pd i(a[b(rv(&96)sh_le_a &96)q_ue_q_lo_on_ei_bo fm_ba[TO_bl_dm]ov_le_a
tg(gr ss X)TO(ba bl_dm)w(cz_do de_uc lp p_e tl[w(&74)]TIP(&76)&103 &74 &46)]bt_SHADED_wh_a hr(
ov_le_hr w_bb(dw(b_le_hr_w_bb_dw e_ln_dh &69)UP(b(le_hr_w_bb_UP ln_dh i_hr_w_bb_dw)&69)&76))tr(a[
ov_le_tr_a &200 ]&98)wh_a[fm_WALL wt_n_ar]&138)ri[b BUOY eq_TO IN_eq_TO op pn]
RING:ED_PLANET:ING_BELL rs_di_cr(fk_di sj_es_a)RL:E:I:M:O RO:ASTED_SWEET_POTATO:BOT_fa:CK:CKET
ROLL:_OF_PAPER:ED-UP_NEWSPAPER:ER (COASTER SKATE)RO:LLING_ON_qi_fq_LAUGHING:MAN(AS_s CENTURIAL_s
D:ENARIUS_s:IMIDIA_SEXTULA_s:UPONDIUS_s nm(eg ez ff[EARLY_o to]fv[&12]fo nx on[hu[to]to[C_D]]
re_on_hu sv np[LATE_o]tq[to]qg &5)QUINARIUS_s SE:MUNCIA_s:STERTIUS_s:XTANS_s:XTULA_s SILIQUA_s
UNCIA_s)ROOSTER ROSE::TTE ro(ca_Q FLORAL_ht_bu he_bl_ht_bu lg_fo_pi_bl_CUSP wh_fo_pi_CUSP)rn(PUSHPIN
TARGET)ru_y_fx(CAI FU LU SH:OU:UANGXI XI)ROWBOAT RS RU:BLE_s:GBY_FOOTBALL:LE-DELAYED:MI(fr(on(ha qa
tv)tw_jf)&167)RUNIC(ARLAUG_y BELGTHOR_y cs_u l(A:C_A:ESC:LGIZ_EOLHX:NSUZ_A BERKANAN_BEORC_BJARKAN_B
C::ALC:EALC:EN:WEORTH D DAGAZ_DAEG_D DOTTED-:L:N:P E::AR:HWAZ_EH_E:NG:TH FEHU_FEOH_FE_F
FRANKS_CASKET(AC AESC EH IS OS)G gz GE:BO_GYFU_G:R HA:EGL_H:GLAZ_H
I:CELANDIC-YR:NG:NGWAZ:OR:SAZ_IS_ISS_I:WAZ_EOH JERAN_J K KAUN:_K:A LAUKAZ_LAGU_LOGR_L
LONG-BRANCH-:AR_AE:HAGALL_H:MADR_M:OSS_O:YR MANNAZ_MAN_M NAUDIZ_NYD_NAUD_N
O::E:N:O:PEN-P:S_O:THALAN_ETHEL_O PERTHO_PEORTH_P Q RAIDO_RAD_REID_R SH
SHORT-TWIG-:AR_A:BJARKAN_B:HAGALL_H:MADR_M:NAUD_N:OSS_O:SOL_S:TYR_T:YR
S:IGEL_LONG-BRANCH-SOL_S:OWILO_S:TAN THURISAZ_THURS_THORN TIWAZ_TIR_TYR_T URUZ_UR_U V W WUNJO_WYNN_W
X Y YR Z)mp_u si_u TVIMADUR_y)RUNN:ER:ING_SHIRT_w_SASH rp_s RUSSIAN_yw_y (BINOVILE NOVILE QUINTILE
SENTAGON TREDECILE VIGINTILE)"

end PacketSmith.Text.NameTree

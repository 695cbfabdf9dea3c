/-!
# Names of pictures

The names that pictures go by in a text. An entry has the names of one picture, with bars between
them, and behind an equals sign or a tilde its code points in hexadecimal. An entry with a tilde is a
picture of people or of a part of them, which takes a tone of skin. A capital letter in a name stands
for a word that occurs often.

Code points stand behind each other with a hyphen, or with a plus sign for a joiner between them.
Those of three digits are counted from `1F000`.
-/

namespace PacketSmith.Text

/-- The words that capital letters stand for. -/
def pictureWords : List (String × String) := [
  ("A", "arrow"), ("B", "button"), ("C", "black"), ("D", "hand"), ("E", "white"), ("F", "face"),
  ("G", "flag"), ("H", "heart"), ("I", "indicator"), ("J", "japanese"), ("K", "keycap"),
  ("L", "letter"), ("M", "man"), ("N", "smiling"), ("P", "person"), ("Q", "square"),
  ("R", "regional"), ("S", "symbol"), ("T", "with"), ("W", "woman"), ("X", "exclamation"),
  ("Y", "family")]

/-- The names. -/
def pictureNames : String :=
  "+1|thumbsup=44D -1|__1|thumbsdown=44E 100|hundred_points=4AF 1234|input_numbers=522
1st_place_medal=947 2nd_place_medal=948 3rd_place_medal=949 8ball|pool_8_ball=3B1 abacus=9EE
abcd|input_latin_lowercase=521 abc|input_latin_letters=524 ab|ab_B_(blood_type)=18E
accept|J_acceptable_B=251 adhesive_bandage=A79 admission_tickets=39F adult~9D1 aerial_tramway=6A1
airplane=2708 airplane_arrival|airplane_arriving=6EC airplane_departure=6EB alarm_clock=23F0
alembic=2697 alien=47D alien_monster|space_invader=47E ambulance=691 american_football|football=3C8
amphora=3FA anchor=2693 angel=47C anger|anger_S=4A2 angry_F_T_horns|imp=47F angry|angry_F=620
anguished|anguished_F=627 ant=41C antenna_bars|signal_strength=4F6 anxious_F_T_sweat|cold_sweat=630
apple|red_apple=34E aquarius=2652 aries=2648 A_backward|reverse_B=25C0
A_double_down|fast_down_B=23EC A_double_up|fast_up_B=23EB A_down_small|downwards_B=53D
A_down|down_A=2B07 A_forward|play_B=25B6 A_heading_down|right_A_curving_down=2935
A_heading_up|right_A_curving_up=2934 A_left|left_A=2B05 A_lower_left|down-left_A=2199
A_lower_right|down-right_A=2198 A_right_hook|left_A_curving_right=21AA A_right|right_A=27A1
A_up_down|up-down_A=2195 A_up_small|upwards_B=53C A_upper_left|up-left_A=2196
A_upper_right|up-right_A=2197 A_up|up_A=2B06 arrows_clockwise|clockwise_vertical_arrows=503
arrows_counterclockwise|counterclockwise_arrows_B=504 articulated_lorry=69B art|artist_palette=3A8
astonished|astonished_F=632 athletic_shoe|running_shoe=45F atm|atm_sign=3E7 atom_S=269B
auto_rickshaw=6FA automobile|car|red_car=697 avocado=951 axe=A93 a|a_B_(blood_type)=170
baby_angel~47C baby_bottle=37C baby_chick=424 baby_S=6BC baby~476 backhand_index_pointing_down~447
backhand_index_pointing_left~448 backhand_index_pointing_right~449 backhand_index_pointing_up~446
back|back_A=519 bacon=953 badger=9A1 badminton|badminton_racquet_and_shuttlecock=3F8 bagel=96F
baggage_claim=6C4 baguette_bread=956 balance_scale|scales=2696 bald=9B2 bald_M=468+9B2
bald_W=469+9B2 ballet_shoes=A70 balloon=388 ballot_box_T_ballot=5F3 ballot_box_T_check=2611
bamboo|pine_decoration=38D banana=34C bangbang|double_X_mark=203C banjo=A95 bank=3E6 bar_chart=4CA
barber|barber_pole=488 baseball=26BE basket=9FA basketball=3C0 bat=987 bath=6C0 bathtub=6C1
battery=50B beach_T_umbrella=3D6 beaming_F_T_N_eyes|grin=601 bearded_P~9D4 bear|bear_F=43B
beating_H|heartbeat=493 bed=6CF beers|clinking_beer_mugs=37B beer|beer_mug=37A
beetle|lady_beetle=41E bee|honeybee=41D beginner|J_S_for_beginner=530 bell=514
bell_T_slash|no_bell=515 bellhop_bell=6CE bento|bento_box=371 beverage_box=9C3 bicycle|bike=6B2
bicyclist=6B4 bikini=459 billed_cap=9E2 biohazard|biohazard_sign=2623 bird=426
birthday|birthday_cake=382 C_circle=26AB C_circle_for_record|record_B=23FA C_G|waving_C_G=3F4
C_H=5A4 C_joker|joker=0CF C_large_Q=2B1B
C_left__pointing_double_triangle_T_vertical_bar|last_track_B=23EE
C_medium-small_Q|C_medium_small_Q=25FE C_medium_Q=25FC C_nib=2712
C_right__pointing_double_triangle_T_vertical_bar|next_track_B=23ED
C_right__pointing_triangle_T_double_vertical_bar|play_or_pause_B=23EF C_small_Q=25AA C_Q_B=532
C_Q_for_stop|stop_B=23F9 blond-haired_M~471+2642-FE0F blond-haired_P~471
blond-haired_W~471+2640-FE0F blossom=33C blowfish=421 blue_book=4D8
blue_car|sport_utility_vehicle=699 blue_circle|large_blue_circle=535 blue_H=499 blue_Q=7E6
blush|N_F_T_N_eyes=60A boar=417 boat|sailboat=26F5 bomb=4A3 bone=9B4 bookmark=516 bookmark_tabs=4D1
books=4DA book|open_book=4D6 boom|collision=4A5 boot|woman’s_boot=462 bottle_T_popping_cork=37E
bouquet=490 bow=647 bow_and_A=3F9 bowl_T_spoon=963 bowling=3B3 boxing_glove=94A boy~466 brain=9E0
bread=35E breast-feeding~931 brick=9F1 bride_T_veil~470 bridge_at_night=309 briefcase=4BC briefs=A72
bright_B|high_brightness=506 broccoli=966 broken_H=494 broom=9F9 brown_circle=7E4 brown_H=90E
brown_Q=7EB bug=41B building_construction=3D7 bulb|light_bulb=4A1 bullet_train|bullettrain_front=685
bullettrain_side|high-speed_train=684 burrito=32F bus=68C bus_stop|busstop=68F
bust_in_silhouette=464 busts_in_silhouette=465 butter=9C8 butterfly=98B b|b_B_(blood_type)=171
cactus=335 cake|shortcake=370 calendar|tear-off_calendar=4C6 call_me_D~919
calling|mobile_phone_T_A=4F2 camel|two-hump_camel=42B camera=4F7 camera_T_flash=4F8 camping=3D5
cancer=264B candle=56F candy=36C canned_food=96B canoe=6F6 capital_abcd|input_latin_uppercase=520
capricorn=2651 card_file_box=5C3 card_index=4C7 card_index_dividers=5C2 carousel_horse=3A0
carp_streamer|flags=38F carrot=955 castle|european_castle=3F0 cat2=408
cat_F_T_tears_of_joy|joy_cat=639 cat_F_T_wry_smile|smirk_cat=63C cat|cat_F=431 cd|optical_disk=4BF
chains=26D3 chair=A91 chart_decreasing|chart_T_downwards_trend=4C9
chart_increasing|chart_T_upwards_trend=4C8 chart|chart_increasing_T_yen=4B9
checkered_G|chequered_G=3C1 cheese_wedge=9C0 cherries=352 cherry_blossom=338 chess_pawn=265F
chestnut=330 chicken=414 children_crossing=6B8 child~9D2 chipmunk=43F chocolate_bar=36B
chopsticks=962 christmas_tree=384 church=26EA cigarette|smoking=6AC cinema=3A6 circled_m|m=24C2
circus_tent=3AA city_sunrise|sunset=307 city_sunset|cityscape_at_dusk=306 cityscape=3D9
clamp|compression=5DC clap=44F clapper|clapper_board=3AC clapping_hands~44F classical_building=3DB
clinking_glasses=942 clipboard=4CB clock1030|ten-thirty=565 clock10|ten_o’clock=559
clock1130|eleven-thirty=566 clock11|eleven_o’clock=55A clock1230|twelve-thirty=567
clock12|twelve_o’clock=55B clock130|one-thirty=55C clock1|one_o’clock=550 clock230|two-thirty=55D
clock2|two_o’clock=551 clock330|three-thirty=55E clock3|three_o’clock=552 clock430|four-thirty=55F
clock4|four_o’clock=553 clock530|five-thirty=560 clock5|five_o’clock=554 clock630|six-thirty=561
clock6|six_o’clock=555 clock730|seven-thirty=562 clock7|seven_o’clock=556 clock830|eight-thirty=563
clock8|eight_o’clock=557 clock930|nine-thirty=564 clock9|nine_o’clock=558 closed_book=4D5
closed_lock_T_key|locked_T_key=510 closed_mailbox_T_lowered_G|mailbox_closed=4EA
closed_mailbox_T_raised_G|mailbox=4EB closed_umbrella=302 cloud=2601 cloud_T_lightning=329
cloud_T_lightning_and_rain|thunder_cloud_and_rain=26C8 cloud_T_rain=327 cloud_T_snow=328
cloud_T_tornado|tornado=32A clown_F=921 club_suit|clubs=2663 clutch_bag|pouch=45D cl|cl_B=191
coat=9E5 cocktail|cocktail_glass=378 coconut=965
cocos_(keeling)_islands|G_for_cocos__islands=1E8-1E8 coffee|hot_beverage=2615 coffin=26B0 cold_F=976
comet=2604 compass=9ED computer_disk|minidisc=4BD computer_mouse|three_B_mouse=5B1
computer|laptop_computer=4BB confetti_ball=38A confounded|confounded_F=616 confused|confused_F=615
congo_-_brazzaville|G_for_congo____brazzaville=1E8-1EC
congo_-_kinshasa|G_for_congo____kinshasa=1E8-1E9 congratulations|J_congratulations_B=3297
construction=6A7 construction_worker~477 control_knobs=39B convenience_store=3EA
cooked_rice|rice=35A cookie=36A cooking|egg=373 cool|cool_B=192 cop=46E copyright=A9
corn|ear_of_corn=33D couch_and_lamp=6CB couple_T_H=491 couple_T_H_M_M=468+2764-FE0F+468
couple_T_H_W_M=469+2764-FE0F+468 couple_T_H_W_W=469+2764-FE0F+469 couplekiss=48F
couple|M_and_W_holding_hands=46B cow2=404 cowboy_hat_F=920 cow|cow_F=42E crab=980
crayon|lower_left_crayon=58D credit_card=4B3 crescent_moon=319 cricket=997
cricket_bat_and_ball|cricket_game=3CF crocodile=40A croissant=950
cross_mark_B|negative_squared_cross_mark=274E cross_mark|x=274C crossed_fingers~91E
crossed_flags=38C crossed_swords=2694 crown=451 crying_cat_F=63F crystal_ball=52E cry|crying_F=622
cucumber=952 cup_T_straw=964 cupcake=9C1 cupid|H_T_A=498 curling_stone=94C curly-haired_M=468+9B1
curly-haired_W=469+9B1 curly_hair=9B1 curly_loop=27B0 currency_exchange=4B1 curry|curry_rice=35B
custard=36E customs=6C3 cut_of_meat=969 cyclone=300 czechia|G_for_czech_republic=1E8-1FF
dagger|dagger_knife=5E1 dancer=483 dancers|people_T_bunny_ears=46F dango=361
dark_skin_tone|emoji_modifier_fitzpatrick_type__6=3FF dark_sunglasses=576 dart|direct_hit=3AF
dash|dashing_away=4A8 date=4C5 deaf_P=9CF deciduous_tree=333 deer=98C delivery_truck|truck=69A
department_store=3EC derelict_house|derelict_house_building=3DA desert=3DC desert_island=3DD
desktop_computer=5A5 detective~575 diamond_shape_T_a_dot_inside|diamond_T_a_dot=4A0
diamond_suit|diamonds=2666 dim_B|low_brightness=505 disappointed_relieved|sad_but_relieved_F=625
disappointed|disappointed_F=61E diving_mask=93F diya_lamp=A94 dizzy=4AB dizzy_F=635 dna=9EC
do_not_litter|no_littering=6AF dog2=415 dog|dog_F=436 dollar|dollar_banknote=4B5 dolls|J_dolls=38E
dolphin|flipper=42C door=6AA dotted_six-pointed_star|six_pointed_star=52F
double_curly_loop|loop=27BF double_vertical_bar|pause_B=23F8 doughnut=369 dove|dove_of_peace=54A
downcast_F_T_sweat|sweat=613 dragon=409 dragon_F=432 dress=457 dromedary_camel=42A drooling_F=924
drop_of_blood=A78 droplet=4A7 drum=941 duck=986 dumpling=95F dvd=4C0 e-mail|e__mail=4E7 eagle=985
ear_of_rice|sheaf_of_rice=33E ear_T_hearing_aid=9BB earth_africa|globe_showing_europe-africa=30D
earth_americas|globe_showing_americas=30E earth_asia|globe_showing_asia-australia=30F ear~442
eggplant=346 eight-pointed_star|eight_pointed_C_star=2734
eight-spoked_asterisk|eight_spoked_asterisk=2733 eight|K_8=38-FE0F-20E3 eject_B|eject_S=23CF
electric_plug=50C elephant=418 elf~9DD email|envelope=2709
emoji_modifier_fitzpatrick_type__1__2|light_skin_tone=3FB
emoji_modifier_fitzpatrick_type__3|medium_light_skin_tone=3FC
emoji_modifier_fitzpatrick_type__4|medium_skin_tone=3FD
emoji_modifier_fitzpatrick_type__5|medium_dark_skin_tone=3FE end|end_A=51A
england=3F4-E0067-E0062-E0065-E006E-E0067-E007F envelope_T_A=4E9 european_post_office=3E4
euro|euro_banknote=4B6 evergreen_tree=332 ewe|sheep=411 X_question_mark|interrobang=2049
X|X_mark|heavy_X_mark=2757 exploding_head=92F expressionless|expressionless_F=611 eye=441
eye_in_speech_bubble=441-FE0F+5E8-FE0F eyeglasses|glasses=453 eyes=440
F_blowing_a_kiss|kissing_H=618 F_savoring_food|yum=60B F_screaming_in_fear|scream=631 F_vomiting=92E
F_T_D_over_mouth=92D F_T_head-bandage|F_T_head__bandage=915 F_T_medical_mask|mask=637
F_T_monocle=9D0 F_T_open_mouth|open_mouth=62E F_T_raised_eyebrow=928 F_T_rolling_eyes=644
F_T_steam_from_nose|triumph=624 F_T_symbols_on_mouth=92C F_T_tears_of_joy|joy=602
F_T_thermometer=912 F_T_tongue|stuck_out_tongue=61B F_without_mouth|no_mouth=636 facepunch|punch=44A
factory=3ED fairy~9DA falafel=9C6 fallen_leaf=342 Y=46A Y_M_boy=468+466 Y_M_boy_boy=468+466+466
Y_M_girl=468+467 Y_M_girl_boy=468+467+466 Y_M_girl_girl=468+467+467 Y_M_M_boy=468+468+466
Y_M_M_boy_boy=468+468+466+466 Y_M_M_girl=468+468+467 Y_M_M_girl_boy=468+468+467+466
Y_M_M_girl_girl=468+468+467+467 Y_M_W_boy=468+469+466 Y_M_W_boy_boy=468+469+466+466
Y_M_W_girl=468+469+467 Y_M_W_girl_boy=468+469+467+466 Y_M_W_girl_girl=468+469+467+467
Y_W_boy=469+466 Y_W_boy_boy=469+466+466 Y_W_girl=469+467 Y_W_girl_boy=469+467+466
Y_W_girl_girl=469+467+467 Y_W_W_boy=469+469+466 Y_W_W_boy_boy=469+469+466+466 Y_W_W_girl=469+469+467
Y_W_W_girl_boy=469+469+467+466 Y_W_W_girl_girl=469+469+467+467 fast-forward_B|fast_forward=23E9
fast_reverse_B|rewind=23EA fax|fax_machine=4E0 fearful|fearful_F=628 feet|paw_prints=43E
female_sign=2640 ferris_wheel=3A1 ferry=26F4 field_hockey|field_hockey_stick_and_ball=3D1
file_cabinet=5C4 file_folder=4C1 film_frames=39E film_projector=4FD fire=525 fire_engine=692
fire_extinguisher=9EF firecracker=9E8 fireworks=386 first_quarter_moon=313
first_quarter_moon_F|first_quarter_moon_T_F=31B fish=41F fish_cake|fish_cake_T_swirl=365
fishing_pole|fishing_pole_and_fish=3A3 fist=270A five|K_5=35-FE0F-20E3
G_for_guinea__bissau|guinea-bissau=1EC-1FC G_for_hong_kong|hong_kong_sar_china=1ED-1F0
G_for_japan=1EF-1F5 G_for_macau|macau_sar_china=1F2-1F4 G_for_myanmar|myanmar_(burma)=1F2-1F2
G_for_timor__leste|timor-leste=1F9-1F1 G_for_turkey=1F9-1F7 G_in_hole|golf=26F3 flamingo=9A9
flashlight=526 flat_shoe=97F fleur-de-lis|fleur__de__lis=269C flexed_biceps~4AA floppy_disk=4BE
flower_playing_cards=3B4 flushed|flushed_F=633 flying_disc=94F flying_saucer=6F8 fog=32B foggy=301
folded_hands~64F foot=9B6 footprints=463 fork_and_knife=374 fork_and_knife_T_plate=37D
fortune_cookie=960 fountain=26F2 fountain_pen|lower_left_fountain_pen=58B four_leaf_clover=340
four|K_4=34-FE0F-20E3 fox_F=98A frame_T_picture|framed_picture=5BC free|free_B=193
french_fries|fries=35F fried_shrimp=364 frog|frog_F=438 front-facing_baby_chick|hatched_chick=425
frowning_F|E_frowning_F=2639 frowning|frowning_F_T_open_mouth=626 fuel_pump|fuelpump=26FD
full_moon=315 full_moon_F|full_moon_T_F=31D funeral_urn=26B1 game_die=3B2 garlic=9C4 gear=2699
gemini=264A gem|gem_stone=48E genie=9DE ghost=47B gift_H|H_T_ribbon=49D gift|wrapped_gift=381
giraffe=992 girl~467 glass_of_milk=95B globe_T_meridians=310 gloves=9E4 glowing_star|star2=31F
goal_net=945 goat=410 goblin|J_goblin=47A goggles=97D golfer=3CC gorilla=98D
graduation_cap|mortar_board=393 grapes=347 green_apple=34F green_book=4D7 green_circle=7E2
green_H=49A green_salad=957 green_Q=7E9 grey_X|E_X_mark=2755 grey_question|E_question_mark=2754
grimacing|grimacing_F=62C grinning_cat_F_T_N_eyes|smile_cat=638 grinning_cat_F|smiley_cat=63A
grinning_F_T_big_eyes|smiley=603 grinning_F_T_N_eyes|smile=604 grinning_F_T_sweat|sweat_smile=605
grinning_squinting_F|laughing|satisfied=606 grinning|grinning_F=600 growing_H|heartpulse=497
guardsman=482 guard~482 guide_dog=9AE guitar=3B8 gun|pistol=52B haircut=487 hamburger=354 hammer=528
hammer_and_pick=2692 hammer_and_wrench=6E0 hamster|hamster_F=439 D=270B D_T_fingers_splayed~590
handbag=45C handshake=91D hankey|pile_of_poo|poop|shit=4A9 hatching_chick=423
headphone|headphones=3A7 hear-no-evil_monkey|hear_no_evil=649 H_decoration=49F
H_eyes_cat|N_cat_F_T_heart-eyes=63B H_eyes|N_F_T_heart-eyes=60D H_suit|hearts=2665 H|red_H=2764
heavy_check_mark=2714 heavy_division_sign=2797 heavy_dollar_sign=4B2
heavy_H_X|heavy_H_X_mark_ornament=2763 heavy_large_circle|o=2B55 heavy_minus_sign=2796
heavy_multiplication_x=2716 heavy_plus_sign=2795 hedgehog=994 helicopter=681 helm_S=2388
helmet_T_E_cross|rescue_worker’s_helmet=26D1 herb=33F hibiscus=33A high-heeled_shoe|high_heel=460
high_voltage|zap=26A1 hiking_boot=97E hindu_temple=6D5 hippopotamus=99B
hocho|kitchen_knife|knife=52A hole=573 honey_pot=36F horizontal_traffic_light|traffic_light=6A5
horse_racing~3C7 horse|horse_F=434 hospital=3E5 hot_dog=32D hot_F=975 hot_pepper=336
hot_springs|hotsprings=2668 hotel=3E8 hourglass_flowing_sand|hourglass_not_done=23F3
hourglass|hourglass_done=231B house=3E0 house_buildings|houses=3D8 house_T_garden=3E1 hugging_F=917
hushed|hushed_F=62F ice=9CA ice_cream=368 ice_hockey|ice_hockey_stick_and_puck=3D2 ice_skate=26F8
icecream|soft_ice_cream=366 ideograph_advantage|J_bargain_B=250 id|id_B=194 inbox_tray=4E5
incoming_envelope=4E8 index_pointing_up~261D infinity=267E information_desk_P=481
information|information_source=2139 innocent|N_F_T_halo=607 input_symbols|symbols=523
iphone|mobile_phone=4F1 izakaya_lantern|lantern|red_paper_lantern=3EE
jack-o-lantern|jack_o_lantern=383 J_application_B|u7533=238 J_castle=3EF J_discount_B|u5272=239
J_free_of_charge_B|u7121=21A J_here_B|koko=201 J_monthly_amount_B|u6708=237 J_no_vacancy_B|u6e80=235
J_not_free_of_charge_B|u6709=236 J_ogre|ogre=479 J_open_for_business_B|u55b6=23A
J_passing_grade_B|u5408=234 J_post_office|post_office=3E3 J_prohibited_B|u7981=232
J_reserved_B|u6307=22F J_secret_B|secret=3299 J_service_charge_B|sa=202 J_vacancy_B|u7a7a=233
japan|map_of_japan=5FE jeans=456 jigsaw=9E9 joystick=579 kaaba=54B kangaroo=998 key=511
keyboard=2328 K_#=23-FE0F-20E3 K_*=2A-FE0F-20E3 K_0|zero=30-FE0F-20E3 K_10|ten=51F
K_1|one=31-FE0F-20E3 K_2|two=32-FE0F-20E3 K_3|three=33-FE0F-20E3 K_6|six=36-FE0F-20E3
K_7|seven=37-FE0F-20E3 K_9|nine=39-FE0F-20E3 K_asterisk=2A-20E3 K_digit_eight=38-20E3
K_digit_five=35-20E3 K_digit_four=34-20E3 K_digit_nine=39-20E3 K_digit_one=31-20E3
K_digit_seven=37-20E3 K_digit_six=36-20E3 K_digit_three=33-20E3 K_digit_two=32-20E3
K_digit_zero=30-20E3 K_number_sign=23-20E3 kick_scooter=6F4 kimono=458
kiss_M_M=468+2764-FE0F+48B+468 kiss_W_M=469+2764-FE0F+48B+468 kiss_W_W=469+2764-FE0F+48B+469
kissing_cat|kissing_cat_F=63D kissing_closed_eyes|kissing_F_T_closed_eyes=61A
kissing_F_T_N_eyes|kissing_N_eyes=619 kissing|kissing_F=617 kiss|kiss_mark=48B kite=A81
kiwi_fruit=95D koala=428 lab_coat=97C label=3F7 lacrosse=94D large_blue_diamond=537
large_orange_diamond=536 last_quarter_moon=317 last_quarter_moon_F|last_quarter_moon_T_F=31C
latin_cross=271D leaf_fluttering_in_wind|leaves=343 leafy_green=96C ledger=4D2 left-facing_fist~91B
left-right_A|left_right_A=2194 left_luggage=6C5 left_speech_bubble=5E8
leftwards_A_T_hook|right_A_curving_left=21A9 leg=9B5 lemon=34B leo=264C leopard=406 level_slider=39A
libra=264E light_rail=688 link=517 linked_paperclips=587 lion_F=981 lipstick=484 lips|mouth=444
litter_in_bin_sign|put_litter_in_its_place=6AE lizard=98E llama=999 lobster=99E
lock_T_ink_pen|locked_T_pen=50F lock|locked=512 locomotive|steam_locomotive=682 lollipop=36D
lotion_bottle=9F4 loud_sound|speaker_high_volume=50A loudly_crying_F|sob=62D loudspeaker=4E2
love-you_gesture~91F love_hotel=3E9 love_L=48C lower_left_ballpoint_pen|pen=58A
lower_left_paintbrush|paintbrush=58C luggage=9F3 lying_F=925
mag_right|magnifying_glass_tilted_right=50E mage~9D9 magnet=9F2 mag|magnifying_glass_tilted_left=50D
mahjong|mahjong_red_dragon=004 mailbox_T_mail|open_mailbox_T_raised_G=4EC
mailbox_T_no_mail|open_mailbox_T_lowered_G=4ED male_sign=2642 M_artist~468+3A8 M_astronaut~468+680
M_biking~6B4+2642-FE0F M_bouncing_ball~26F9-FE0F+2642-FE0F M_bowing~647+2642-FE0F
M_cartwheeling~938+2642-FE0F M_climbing~9D7+2642-FE0F M_construction_worker~477+2642-FE0F
M_cook~468+373 M_dancing~57A M_detective~575-FE0F+2642-FE0F M_elf~9DD+2642-FE0F
M_facepalming~926+2642-FE0F M_factory_worker~468+3ED M_fairy~9DA+2642-FE0F M_farmer~468+33E
M_firefighter~468+692 M_frowning~64D+2642-FE0F M_genie=9DE+2642-FE0F M_gesturing_no~645+2642-FE0F
M_gesturing_ok~646+2642-FE0F M_getting_haircut~487+2642-FE0F M_getting_massage~486+2642-FE0F
M_golfing~3CC-FE0F+2642-FE0F M_guard~482+2642-FE0F M_health_worker~468+2695-FE0F
M_in_business_suit_levitating=574 M_in_lotus_position~9D8+2642-FE0F M_in_manual_wheelchair=468+9BD
M_in_motorized_wheelchair=468+9BC M_in_steamy_room~9D6+2642-FE0F M_in_suit_levitating~574
M_in_tuxedo~935 M_judge~468+2696-FE0F M_juggling~939+2642-FE0F M_lifting_weights~3CB-FE0F+2642-FE0F
M_mage~9D9+2642-FE0F M_mechanic~468+527 M_mountain_biking~6B5+2642-FE0F M_office_worker~468+4BC
M_pilot~468+2708-FE0F M_playing_handball~93E+2642-FE0F M_playing_water_polo~93D+2642-FE0F
M_police_officer~46E+2642-FE0F M_pouting~64E+2642-FE0F M_raising_D~64B+2642-FE0F
M_rowing_boat~6A3+2642-FE0F M_running~3C3+2642-FE0F M_scientist~468+52C M_shrugging~937+2642-FE0F
M_singer~468+3A4 M_student~468+393 M_surfing~3C4+2642-FE0F M_swimming~3CA+2642-FE0F
M_teacher~468+3EB M_technologist~468+4BB M_tipping_D~481+2642-FE0F M_vampire~9DB+2642-FE0F
M_walking~6B6+2642-FE0F M_wearing_turban~473+2642-FE0F M_T_chinese_cap~472 M_T_gua_pi_mao=472
M_T_probing_cane=468+9AF M_T_turban=473 M_zombie=9DF+2642-FE0F mango=96D
mans_shoe|man’s_shoe|shoe=45E mantelpiece_clock=570 manual_wheelchair=9BD M~468 maple_leaf=341
martial_arts_uniform=94B massage=486 mate=9C9 meat_on_bone=356 mechanical_arm=9BE mechanical_leg=9BF
medical_S=2695 mega|megaphone=4E3 melon=348 memo|pencil=4DD men_T_bunny_ears=46F+2642-FE0F
men_wrestling=93C+2642-FE0F menorah|menorah_T_nine_branches=54E mens|men’s_room=6B9
mermaid~9DC+2640-FE0F merman~9DC+2642-FE0F merperson~9DC metro=687 microbe=9A0 microphone=3A4
microscope=52C middle_finger~595 military_medal=396 milky_way=30C minibus=690 moai|moyai=5FF
mobile_phone_off=4F4 money-mouth_F|money__mouth_F=911 money_bag|moneybag=4B0 money_T_wings=4B8
monkey=412 monkey_F=435 monorail=69D moon_cake=96E moon_viewing_ceremony|rice_scene=391
moon|waxing_gibbous_moon=314 mosque=54C mosquito=99F motor_boat=6E5 motor_scooter=6F5
motorcycle|racing_motorcycle=3CD motorized_wheelchair=9BC motorway=6E3 mount_fuji=5FB mountain=26F0
mountain_bicyclist=6B5 mountain_cableway=6A0 mountain_railway=69E mouse2=401 mouse|mouse_F=42D
movie_camera=3A5 mrs._claus~936 muscle=4AA mushroom=344 musical_keyboard=3B9 musical_note=3B5
musical_notes|notes=3B6 musical_score=3BC mute|muted_speaker=507 nail_care=485 nail_polish~485
name_badge=4DB national_park=3DE nauseated_F=922 nazar_amulet=9FF necktie=454 nerd_F=913
neutral_F=610 new_moon=311 new_moon_F|new_moon_T_F=31A newspaper=4F0 new|new_B=195 ng|ng_B=196
night_T_stars=303 no_bicycles=6B3 no_entry=26D4 no_entry_sign|prohibited=6AB no_good=645
no_mobile_phones=4F5 no_one_under_eighteen|underage=51E no_pedestrians=6B7 no_smoking=6AD
non-potable_water|non__potable_water=6B1 nose~443 notebook=4D3 notebook_T_decorative_cover=4D4
nut_and_bolt=529 o2|o_B_(blood_type)=17E ocean|water_wave=30A octopus=419 oden=362
office|office_building=3E2 oil_drum=6E2 ok_D~44C ok_W=646 ok|ok_B=197 old_key=5DD old_M~474
old_W~475 older_adult~9D3 older_M=474 older_W=475 om|om_S=549 on!_A|on=51B oncoming_automobile=698
oncoming_bus=68D oncoming_fist~44A oncoming_police_car=694 oncoming_taxi=696 one-piece_swimsuit=A71
onion=9C5 open_file_folder=4C2 open_hands~450 ophiuchus=26CE orange_book=4D9 orange_circle=7E0
orange_H=9E1 orange_Q=7E7 orangutan=9A7 orthodox_cross=2626 otter=9A6 outbox_tray=4E4 owl=989 ox=402
oyster=9AA p_B|parking=17F package=4E6 page_facing_up=4C4 page_T_curl=4C3 pager=4DF palm_tree=334
palms_up_together~932 pancakes=95E panda_F=43C paperclip=4CE parrot=99C part_alternation_mark=303D
partly_sunny|sun_behind_cloud=26C5 party_popper|tada=389 partying_F=973 passenger_ship=6F3
passport_control=6C2 peace_S=262E peach=351 peacock=99A peanuts=95C pear=350 pencil2=270F
penguin=427 pensive|pensive_F=614 people_holding_hands=9D1+91D+9D1 people_wrestling=93C
performing_arts=3AD persevere|persevering_F=623 P_biking~6B4 P_bouncing_ball~26F9 P_bowing~647
P_cartwheeling~938 P_climbing~9D7 P_facepalming~926 P_fencing=93A P_frowning~64D P_gesturing_no~645
P_gesturing_ok~646 P_getting_haircut~487 P_getting_massage~486 P_golfing~3CC P_in_bed~6CC
P_in_lotus_position~9D8 P_in_steamy_room~9D6 P_juggling~939 P_kneeling=9CE P_lifting_weights~3CB
P_mountain_biking~6B5 P_playing_handball~93E P_playing_water_polo~93D P_pouting~64E P_raising_D~64B
P_rowing_boat~6A3 P_running~3C3 P_shrugging~937 P_standing=9CD P_surfing~3C4 P_swimming~3CA
P_taking_bath~6C0 P_tipping_D~481 P_walking~6B6 P_wearing_turban~473 P_T_ball=26F9
P_T_blond_hair=471 P_T_pouting_F=64E petri_dish=9EB phone|telephone=260E pick=26CF pie=967 pig2=416
pig_nose=43D pig|pig_F=437 pill=48A pinching_D=90F pineapple=34D
ping_pong|table_tennis_paddle_and_ball=3D3 pirate_G=3F4+2620-FE0F pisces=2653 pizza=355
place_of_worship=6D0 pleading_F=97A point_down=447 point_left=448 point_right=449 point_up=261D
point_up_2=446 police_car=693 police_car_light|rotating_light=6A8 police_officer~46E poodle=429
popcorn=37F postal_horn=4EF postbox=4EE pot_of_food|stew=372 potable_water=6B0 potato=954
poultry_leg=357 pound|pound_banknote=4B7 pouting_cat|pouting_cat_F=63E pouting_F|rage=621 pray=64F
prayer_beads=4FF pregnant_W~930 pretzel=968 princess~478 prince~934 printer=5A8 probing_cane=9AF
purple_circle=7E3 purple_H=49C purple_Q=7EA purse=45B pushpin=4CC question|question_mark=2753
rabbit2=407 rabbit|rabbit_F=430 raccoon=99D racehorse=40E racing_car=3CE radio=4FB radio_B=518
radioactive|radioactive_sign=2622 railway_car=683 railway_track=6E4 rainbow=308
rainbow_G=3F3-FE0F+308 raised_back_of_D~91A raised_fist~270A raised_D_T_fingers_splayed=590
raised_D_T_part_between_middle_and_ring_fingers=596 raised_hands=64C raised_D~270B raising_D=64B
raising_hands~64C ram=40F ramen|steaming_bowl=35C rat=400 razor=A92 receipt=9FE
recycle|recycling_S=267B red-haired_M=468+9B0 red-haired_W=469+9B0 red_circle=534 red_envelope=9E7
red_hair=9B0 red_Q=7E5 red_triangle_pointed_down|small_red_triangle_down=53B
red_triangle_pointed_up|small_red_triangle=53A R_I_a|R_I_S_L_a=1E6 R_I_b|R_I_S_L_b=1E7
R_I_c|R_I_S_L_c=1E8 R_I_d|R_I_S_L_d=1E9 R_I_e|R_I_S_L_e=1EA R_I_f|R_I_S_L_f=1EB R_I_g|R_I_S_L_g=1EC
R_I_h|R_I_S_L_h=1ED R_I_i|R_I_S_L_i=1EE R_I_j|R_I_S_L_j=1EF R_I_k|R_I_S_L_k=1F0 R_I_l|R_I_S_L_l=1F1
R_I_m|R_I_S_L_m=1F2 R_I_n|R_I_S_L_n=1F3 R_I_o|R_I_S_L_o=1F4 R_I_p|R_I_S_L_p=1F5 R_I_q|R_I_S_L_q=1F6
R_I_r|R_I_S_L_r=1F7 R_I_S_L_t|R_I_t=1F9 R_I_S_L_u|R_I_u=1FA R_I_S_L_v|R_I_v=1FB R_I_S_L_w|R_I_w=1FC
R_I_S_L_x|R_I_x=1FD R_I_S_L_y|R_I_y=1FE R_I_S_L_z|R_I_z=1FF R_I_s|R_I_S_L_s=1F8 registered=AE
relaxed|N_F=263A relieved|relieved_F=60C reminder_ribbon=397 repeat_one|repeat_single_B=502
repeat|repeat_B=501 restroom=6BB reversed_D_T_middle_finger_extended=595 revolving_hearts=49E
rhinoceros=98F ribbon=380 rice_ball=359 rice_cracker=358 right-facing_fist~91C
right_anger_bubble=5EF ring=48D ringed_planet=A90 roasted_sweet_potato|sweet_potato=360
robot|robot_F=916 rocket=680 roll_of_paper=9FB rolled-up_newspaper|rolled__up_newspaper=5DE
roller_coaster=3A2 rolling_on_the_floor_laughing=923 rooster=413 rose=339 rosette=3F5
round_pushpin=4CD rowboat=6A3 rugby_football=3C9 runner|running=3C3
running_shirt|running_shirt_T_sash=3BD safety_pin=9F7 safety_vest=9BA sagittarius=2650 sake=376
salt=9C2 sandal|woman’s_sandal=461 sandwich=96A santa=385 santa_claus~385 sari=97B
satellite|satellite_antenna=4E1 sauropod=995 saxophone=3B7 scarf=9E3 school=3EB
school_backpack|school_satchel=392 scissors=2702 scorpion=982 scorpio|scorpius=264F
scotland=3F4-E0067-E0062-E0073-E0063-E0074-E007F scream_cat|weary_cat_F=640 scroll=4DC seat=4BA
see-no-evil_monkey|see_no_evil=648 seedling=331 selfie~933 service_dog=415+9BA
shallow_pan_of_food=958 shamrock=2618 shark=988 shaved_ice=367 shell|spiral_shell=41A shield=6E1
shinto_shrine=26E9 ship=6A2 shirt|t-shirt|tshirt=455 shooting_star|stars=320 shopping_bags=6CD
shopping_cart=6D2 shorts=A73 shower=6BF shrimp=990 shuffle_tracks_B|twisted_rightwards_arrows=500
shushing_F=92B sign_of_the_horns~918 skateboard=6F9 skier=26F7 ski|skis=3BF skull=480
skull_and_crossbones=2620 skunk=9A8 sled=6F7 sleeping_accommodation=6CC sleeping|sleeping_F=634
sleepy|sleepy_F=62A sleuth_or_spy=575 slightly_frowning_F=641 slightly_N_F=642 slot_machine=3B0
sloth=9A5 small_airplane=6E9 small_blue_diamond=539 small_orange_diamond=538 N_F_T_3_hearts=970
N_F_T_horns|N_imp=608 N_F_T_sunglasses|sunglasses=60E smirk|smirking_F=60F snail=40C snake=40D
sneezing_F=927 snow-capped_mountain|snow_capped_mountain=3D4 snowboarder~3C2 snowflake=2744
snowman=2603 snowman_without_snow=26C4 soap=9FC soccer|soccer_ball=26BD socks=9E6 softball=94E
soon|soon_A=51C sos|sos_B=198 sound|speaker_medium_volume=509 spade_suit|spades=2660 spaghetti=35D
sparkle=2747 sparkler=387 sparkles=2728 sparkling_H=496 speak-no-evil_monkey|speak_no_evil=64A
speaker|speaker_low_volume=508 speaking_head|speaking_head_in_silhouette=5E3 speech_balloon=4AC
speedboat=6A4 spider=577 spider_web=578 spiral_calendar|spiral_calendar_pad=5D3
spiral_note_pad|spiral_notepad=5D2 sponge=9FD spoon=944 sports_medal=3C5 spouting_whale|whale=433
squid=991 squinting_F_T_tongue|stuck_out_tongue_closed_eyes=61D stadium=3DF star-struck=929
star_and_crescent=262A star_of_david=2721 star|E_medium_star=2B50 station=689 statue_of_liberty=5FD
stethoscope=A7A stop_sign=6D1 stopwatch=23F1 straight_ruler=4CF strawberry=353
stuck_out_tongue_winking_eye|winking_F_T_tongue=61C studio_microphone=399 stuffed_flatbread=959
sun_behind_large_cloud|E_sun_behind_cloud=325 sun_behind_rain_cloud|E_sun_behind_cloud_T_rain=326
sun_behind_small_cloud|E_sun_T_small_cloud=324 sun_T_F=31E sunflower=33B sunrise=305
sunrise_over_mountains=304 sun|sunny=2600 superhero=9B8 supervillain=9B9 surfer=3C4 sushi=363
suspension_railway=69F swan=9A2 sweat_droplets|sweat_drops=4A6 swimmer=3CA synagogue=54D syringe=489
t-rex=996 taco=32E takeout_box=961 tanabata_tree=38B tangerine=34A taurus=2649 taxi=695
tea|teacup_without_handle=375 teddy_bear=9F8 telephone_receiver=4DE telescope=52D television|tv=4FA
tennis=3BE tent=26FA test_tube=9EA thermometer=321 thinking_F=914 thought_balloon=4AD thread=9F5
thumbs_down~44E thumbs_up~44D ticket=3AB tiger2=405 tiger|tiger_F=42F timer_clock=23F2 tired_F=62B
tm|trade_mark=2122 toilet=6BD tokyo_tower=5FC tomato=345 tongue=445 toolbox=9F0 tooth=9B7
top_hat|tophat=3A9 top|top_A=51D trackball=5B2 tractor=69C train2=686 train|tram_car=68B tram=68A
triangular_G|triangular_G_on_post=6A9 triangular_ruler=4D0 trident|trident_emblem=531 trolleybus=68E
trophy=3C6 tropical_drink=379 tropical_fish=420 trumpet=3BA tulip=337 tumbler_glass=943 turkey=983
turtle=422 two_hearts=495 two_men_holding_hands=46C two_women_holding_hands=46D umbrella=2602
umbrella_on_ground=26F1 umbrella_T_rain_drops=2614 unamused|unamused_F=612 unicorn_F=984
united_nations=1FA-1F3 unlock|unlocked=513 up!_B|up=199 upside-down_F|upside__down_F=643 v=270C
vampire~9DB vertical_traffic_light=6A6 vhs|videocassette=4FC vibration_mode=4F3 victory_D~270C
video_camera=4F9 video_game=3AE violin=3BB virgo=264D volcano=30B volleyball=3D0 vs|vs_B=19A
vulcan_salute~596 waffle=9C7 wales=3F4-E0067-E0062-E0077-E006C-E0073-E007F walking=6B6
waning_crescent_moon=318 waning_gibbous_moon=316 warning=26A0 wastebasket=5D1 watch=231A
water_buffalo=403 water_closet|wc=6BE watermelon=349 wave=44B waving_D~44B waving_E_G|E_G=3F3
wavy_dash=3030 waxing_crescent_moon=312 weary|weary_F=629 wedding=492 weight_lifter=3CB whale2=40B
wheel_of_dharma=2638 wheelchair|wheelchair_S=267F white-haired_M=468+9B3 white-haired_W=469+9B3
E_check_mark|E_heavy_check_mark=2705 E_circle=26AA E_flower=4AE E_hair=9B3 E_H=90D E_large_Q=2B1C
E_medium-small_Q|E_medium_small_Q=25FD E_medium_Q=25FB E_small_Q=25AB E_Q_B=533 wilted_flower=940
wind_blowing_F|wind_F=32C wind_chime=390 wine_glass=377 wink|winking_F=609 wolf|wolf_F=43A
W_artist~469+3A8 W_astronaut~469+680 W_biking~6B4+2640-FE0F W_bouncing_ball~26F9-FE0F+2640-FE0F
W_bowing~647+2640-FE0F W_cartwheeling~938+2640-FE0F W_climbing~9D7+2640-FE0F
W_construction_worker~477+2640-FE0F W_cook~469+373 W_dancing~483 W_detective~575-FE0F+2640-FE0F
W_elf~9DD+2640-FE0F W_facepalming~926+2640-FE0F W_factory_worker~469+3ED W_fairy~9DA+2640-FE0F
W_farmer~469+33E W_firefighter~469+692 W_frowning~64D+2640-FE0F W_genie=9DE+2640-FE0F
W_gesturing_no~645+2640-FE0F W_gesturing_ok~646+2640-FE0F W_getting_haircut~487+2640-FE0F
W_getting_massage~486+2640-FE0F W_golfing~3CC-FE0F+2640-FE0F W_guard~482+2640-FE0F
W_health_worker~469+2695-FE0F W_in_lotus_position~9D8+2640-FE0F W_in_manual_wheelchair=469+9BD
W_in_motorized_wheelchair=469+9BC W_in_steamy_room~9D6+2640-FE0F W_judge~469+2696-FE0F
W_juggling~939+2640-FE0F W_lifting_weights~3CB-FE0F+2640-FE0F W_mage~9D9+2640-FE0F
W_mechanic~469+527 W_mountain_biking~6B5+2640-FE0F W_office_worker~469+4BC W_pilot~469+2708-FE0F
W_playing_handball~93E+2640-FE0F W_playing_water_polo~93D+2640-FE0F W_police_officer~46E+2640-FE0F
W_pouting~64E+2640-FE0F W_raising_D~64B+2640-FE0F W_rowing_boat~6A3+2640-FE0F
W_running~3C3+2640-FE0F W_scientist~469+52C W_shrugging~937+2640-FE0F W_singer~469+3A4
W_student~469+393 W_surfing~3C4+2640-FE0F W_swimming~3CA+2640-FE0F W_teacher~469+3EB
W_technologist~469+4BB W_tipping_D~481+2640-FE0F W_vampire~9DB+2640-FE0F W_walking~6B6+2640-FE0F
W_wearing_turban~473+2640-FE0F W_T_headscarf~9D5 W_T_probing_cane=469+9AF W_zombie=9DF+2640-FE0F
womans_clothes|woman’s_clothes=45A womans_hat|woman’s_hat=452 W~469 women_T_bunny_ears=46F+2640-FE0F
women_wrestling=93C+2640-FE0F womens|women’s_room=6BA woozy_F=974 world_map=5FA
worried|worried_F=61F wrench=527 writing_D~270D yarn=9F6 yawning_F=971 yellow_circle=7E1
yellow_H=49B yellow_Q=7E8 yen|yen_banknote=4B4 yin_yang=262F yo-yo=A80 zany_F=92A zebra=993
zipper-mouth_F|zipper__mouth_F=910 zombie=9DF zzz=4A4"

/-- The countries whose flags are pictures, each with its two letters. -/
def countryNames : String :=
  "afghanistan=AF albania=AL algeria=DZ american_samoa=AS andorra=AD angola=AO anguilla=AI
antarctica=AQ antigua_&_barbuda=AG argentina=AR armenia=AM aruba=AW ascension_island=AC australia=AU
austria=AT azerbaijan=AZ bahamas=BS bahrain=BH bangladesh=BD barbados=BB belarus=BY belgium=BE
belize=BZ benin=BJ bermuda=BM bhutan=BT bolivia=BO bosnia_&_herzegovina=BA botswana=BW
bouvet_island=BV brazil=BR british_indian_ocean_territory=IO british_virgin_islands=VG brunei=BN
bulgaria=BG burkina_faso=BF burundi=BI cambodia=KH cameroon=CM canada=CA canary_islands=IC
cape_verde=CV caribbean_netherlands=BQ cayman_islands=KY central_african_republic=CF
ceuta_&_melilla=EA chad=TD chile=CL china=CN christmas_island=CX clipperton_island=CP colombia=CO
comoros=KM cook_islands=CK costa_rica=CR croatia=HR cuba=CU curaçao=CW cyprus=CY côte_d’ivoire=CI
denmark=DK diego_garcia=DG djibouti=DJ dominica=DM dominican_republic=DO ecuador=EC egypt=EG
el_salvador=SV equatorial_guinea=GQ eritrea=ER estonia=EE ethiopia=ET european_union=EU
falkland_islands=FK faroe_islands=FO fiji=FJ finland=FI france=FR french_guiana=GF
french_polynesia=PF french_southern_territories=TF gabon=GA gambia=GM georgia=GE germany=DE ghana=GH
gibraltar=GI greece=GR greenland=GL grenada=GD guadeloupe=GP guam=GU guatemala=GT guernsey=GG
guinea=GN guyana=GY haiti=HT heard_&_mcdonald_islands=HM honduras=HN hungary=HU iceland=IS india=IN
indonesia=ID iran=IR iraq=IQ ireland=IE isle_of_man=IM israel=IL italy=IT jamaica=JM jersey=JE
jordan=JO kazakhstan=KZ kenya=KE kiribati=KI kosovo=XK kuwait=KW kyrgyzstan=KG laos=LA latvia=LV
lebanon=LB lesotho=LS liberia=LR libya=LY liechtenstein=LI lithuania=LT luxembourg=LU macedonia=MK
madagascar=MG malawi=MW malaysia=MY maldives=MV mali=ML malta=MT marshall_islands=MH martinique=MQ
mauritania=MR mauritius=MU mayotte=YT mexico=MX micronesia=FM moldova=MD monaco=MC mongolia=MN
montenegro=ME montserrat=MS morocco=MA mozambique=MZ namibia=NA nauru=NR nepal=NP netherlands=NL
new_caledonia=NC new_zealand=NZ nicaragua=NI niger=NE nigeria=NG niue=NU norfolk_island=NF
north_korea=KP northern_mariana_islands=MP norway=NO oman=OM pakistan=PK palau=PW
palestinian_territories=PS panama=PA papua_new_guinea=PG paraguay=PY peru=PE philippines=PH
pitcairn_islands=PN poland=PL portugal=PT puerto_rico=PR qatar=QA romania=RO russia=RU rwanda=RW
réunion=RE samoa=WS san_marino=SM saudi_arabia=SA senegal=SN serbia=RS seychelles=SC sierra_leone=SL
singapore=SG sint_maarten=SX slovakia=SK slovenia=SI solomon_islands=SB somalia=SO south_africa=ZA
south_georgia_&_south_sandwich_islands=GS south_korea=KR south_sudan=SS spain=ES sri_lanka=LK
st._barthélemy=BL st._helena=SH st._kitts_&_nevis=KN st._lucia=LC st._martin=MF
st._pierre_&_miquelon=PM st._vincent_&_grenadines=VC sudan=SD suriname=SR svalbard_&_jan_mayen=SJ
swaziland=SZ sweden=SE switzerland=CH syria=SY são_tomé_&_príncipe=ST taiwan=TW tajikistan=TJ
tanzania=TZ thailand=TH togo=TG tokelau=TK tonga=TO trinidad_&_tobago=TT tristan_da_cunha=TA
tunisia=TN turkmenistan=TM turks_&_caicos_islands=TC tuvalu=TV u.s._outlying_islands=UM
u.s._virgin_islands=VI uganda=UG ukraine=UA united_arab_emirates=AE united_kingdom=GB
united_states=US uruguay=UY uzbekistan=UZ vanuatu=VU vatican_city=VA venezuela=VE vietnam=VN
wallis_&_futuna=WF western_sahara=EH yemen=YE zambia=ZM zimbabwe=ZW åland_islands=AX"

end PacketSmith.Text

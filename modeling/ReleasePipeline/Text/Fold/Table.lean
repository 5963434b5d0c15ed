/-!
# `ReleasePipeline.Text.Fold.Table`: how each character is folded

The words are the runs of the characters behind ASCII in version 17.0 of the character set. They are
of these forms, where `n` is a number of characters:

* `nV`: they stay as they are;
* `nI`: they are dropped;
* `nX`: they are refused;
* `n+k` and `n-k`: each becomes the one that lies `k` behind or before it;
* `n~`: by turns, one becomes the next one, and that stays as it is;
* `:abc`: as many as there are characters, and each becomes the one that is given for it;
* `=abc`: one, which becomes the text that is given.
-/

set_option autoImplicit false

namespace ReleasePipeline.Text

/-- The runs of the table of folds. -/
def foldLines : List String :=
  ["33X 7V 1X 1V :a 2V 1I 1V 1X 2V :23 1X :μ 2V 1X :1o 1V =1⁄4 =1⁄2 =3⁄4 1V 23+32 1V 7+32 33V 48~",
   "=i̇ 1V =ij =ij 4~ 1V 6~ =l· =l· 8~ =ʼn 46~ :ÿ 6~ :s 1V :ɓ 4~ :ɔƈ 1V :ɖɗƌ 2V :ǝəɛƒ 1V :ɠɣ 1V",
   ":ɩɨƙ 3V :ɯɲ 1V :ɵ 6~ :ʀƨ 1V :ʃ 2V :ƭ 1V :ʈư 1V :ʊʋ 4~ :ʒƹ 3V :ƽ 7V =dž =dž =dž =lj =lj =lj",
   "=nj =nj =nj 16~ 1V 18~ 1V =dz =dz =dz :ǵ 1V :ƕƿ 40~ :ƞ 1V 18~ 6V :ⱥȼ 1V :ƚⱦ 2V :ɂ 1V :ƀʉʌ 10~",
   "96V :hɦjrɹɻʁwy 31V 6X 2V :ɣlsxʕ 91V :̀́ 1V :̓ =̈́ :ι 9V 1I 32V 4~ :ʹ 1V :ͷ 1V 3X 3V :;ϳ 6X",
   ":ά·έήί 1X :ό 1X :ύώ 1V 17+32 1X 9+32 35V :ϗβθυύϋφπ 1V 24~ :κρσ 1V :θε 1V :ϸ 1V :σϻ 2V :ͻͼͽ",
   "16+80 32+32 48V 34~ 8V 54~ :ӏ 14~ 1V 96~ 1X 38+48 2X 46V =եւ 3V 2X 3V 1X 55V 8X 27V 4X 6V 17X",
   "22V 1X 88V =اٴ =وٴ =ۇٴ =يٴ 100V 1X 48V 2X 59V 2X 101V 14X 59V 2X 49V 2X 15V 1X 28V 2X 1V 1X",
   "11V 5X 32V 7X 75V 1X 117V =क़ =ख़ =ग़ =ज़ =ड़ =ढ़ =फ़ =य़ 36V 1X 8V 2X 2V 2X 22V 1X 7V 1X 1V",
   "3X 4V 2X 9V 2X 2V 2X 4V 8X 1V 4X =ড় =ঢ় 1X =য় 4V 2X 25V 2X 3V 1X 6V 4X 2V 2X 22V 1X 7V 1X",
   "1V =ਲ਼ 1X 1V =ਸ਼ 1X 2V 2X 1V 1X 5V 4X 2V 2X 3V 3X 1V 7X =ਖ਼ =ਗ਼ =ਜ਼ 1V 1X =ਫ਼ 7X 17V 10X 3V",
   "1X 9V 1X 3V 1X 22V 1X 7V 1X 2V 1X 5V 2X 10V 1X 3V 1X 3V 2X 1V 15X 4V 2X 12V 7X 7V 1X 3V 1X 8V",
   "2X 2V 2X 22V 1X 7V 1X 2V 1X 5V 2X 9V 2X 2V 2X 3V 7X 3V 4X =ଡ଼ =ଢ଼ 1X 5V 2X 18V 10X 2V 1X 6V",
   "3X 3V 1X 4V 3X 2V 1X 1V 1X 2V 3X 2V 3X 3V 3X 12V 4X 5V 3X 3V 1X 4V 2X 1V 6X 1V 14X 21V 5X 13V",
   "1X 3V 1X 23V 1X 16V 2X 9V 1X 3V 1X 4V 7X 2V 1X 3V 1X 2V 2X 4V 2X 10V 7X 22V 1X 3V 1X 23V 1X",
   "10V 1X 5V 2X 9V 1X 3V 1X 4V 7X 2V 5X 3V 1X 4V 2X 10V 1X 3V 12X 13V 1X 3V 1X 51V 1X 3V 1X 6V",
   "4X 16V 2X 26V 1X 3V 1X 18V 3X 24V 1X 9V 1X 1V 2X 7V 3X 1V 4X 6V 1X 1V 1X 8V 6X 10V 2X 3V 12X",
   "50V =ํา 7V 4X 29V 37X 2V 1X 1V 1X 5V 1X 24V 1X 1V 1X 12V =ໍາ 10V 2X 5V 1X 1V 1X 7V 1X 10V 2X",
   "=ຫນ =ຫມ 2V 32X 12V :་ 54V =གྷ 4V 1X 4V =ཌྷ 4V =དྷ 4V =བྷ 4V =ཛྷ 12V =ཀྵ 3V 4X 2V =ཱི 1V =ཱུ",
   "=ྲྀ =ྲཱྀ =ླྀ =ླཱྀ 7V =ཱྀ 17V =ྒྷ 4V 1X 4V =ྜྷ 4V =ྡྷ 4V =ྦྷ 4V =ྫྷ 12V =ྐྵ 3V 1X 15V 1X 13V",
   "37X 160V 38+7264 1X :ⴧ 5X :ⴭ 2X 44V :ნ 98V 2I 232V 1X 4V 2X 7V 1X 1V 1X 4V 2X 41V 1X 4V 2X",
   "33V 1X 4V 2X 7V 1X 1V 1X 4V 2X 15V 1X 57V 1X 4V 2X 67V 2X 32V 3X 26V 6X 86V 2X 6-8 2X 640V 1X",
   "28V 3X 89V 7X 22V 9X 24V 9X 20V 12X 13V 1X 3V 1X 2V 12X 52V 2I 40V 2X 10V 6X 10V 6X 11V 5I",
   "10V 6X 89V 7X 43V 5X 70V 10X 31V 1X 12V 4X 12V 4X 1V 3X 42V 2X 5V 11X 44V 4X 26V 6X 11V 3X",
   "62V 2X 65V 1X 29V 2X 11V 6X 10V 6X 14V 2X 46V 2X 12V 20X 77V 1X 166V 8X 60V 3X 15V 3X 51V",
   ":вдосттъѣꙋᲊ 1V 5X 43-3008 2X :ჽჾჿ 8V 8X 43V 5X 44V :aæb 1V :deǝ 8-7372 1V :oȣprtuwaɐɑᴂbdeəɛɜg",
   "1V :kmŋoɔᴖᴗptuᴝɯvᴥβγδφχiruvβγρφχ 13V :н 34V :ɒcɕðɜfɟɡɥɨɩɪᵻʝɭᶅʟɱɰ 4-6972 :ɸʂʃƫʉʊᴜʋʌzʐʑʒθ 64V",
   "150~ 4V =aʾ :ṡ 2V :ß 1V 96~ 8V 8-8 6V 2X 6-8 2X 8V 8-8 8V 8-8 6V 2X 6-8 2X 8V 1X :ὑ 1X :ὓ 1X",
   ":ὕ 1X :ὗ 8V 8-8 1V :ά 1V :έ 1V :ή 1V :ί 1V :ό 1V :ύ 1V :ώ 2X =ἀι =ἁι =ἂι =ἃι =ἄι =ἅι =ἆι =ἇι",
   "=ἀι =ἁι =ἂι =ἃι =ἄι =ἅι =ἆι =ἇι =ἠι =ἡι =ἢι =ἣι =ἤι =ἥι =ἦι =ἧι =ἠι =ἡι =ἢι =ἣι =ἤι =ἥι =ἦι",
   "=ἧι =ὠι =ὡι =ὢι =ὣι =ὤι =ὥι =ὦι =ὧι =ὠι =ὡι =ὢι =ὣι =ὤι =ὥι =ὦι =ὧι 2V =ὰι =αι =άι 1X 1V =ᾶι",
   ":ᾰᾱὰά =αι 1X :ι 3X =ὴι =ηι =ήι 1X 1V =ῆι :ὲέὴή =ηι 3X 3V :ΐ 2X 2V :ῐῑὶί 4X 3V :ΰ 4V :ῠῡὺύῥ 2X",
   ":\x60 2X =ὼι =ωι =ώι 1X 1V =ῶι :ὸόὼώ =ωι 14X 1I 2V 2X 1V :‐ 5V 1X 12V 3X 1V 8X 3V =′′ =′′′ 1V",
   "=‵‵ =‵‵‵ 4V =!! 1V 1X 8V 3X 13V =′′′′ 7V 1X 5I 5X 6I :0i 2X 6-8256 :+−=()n 10-8272 :+−=() 1X",
   ":aeoxəh 4-8235 :pst 3X 8V =rs 25V 14X 33V 17X :c =°c 1V 2X :ɛ 1V =°f :ghhhhħiill 1V :n =no 2V",
   ":pqrrr 2V =sm =tel =tm 1V :z 1V :ω 1V :z 1V :kåbc 1V :eefⅎmo 4-7013 :i 1V =fax :πγγπ∑ 4V",
   ":ddeij 6V =1⁄7 =1⁄9 =1⁄10 =1⁄3 =2⁄3 =1⁄5 =2⁄5 =3⁄5 =4⁄5 =1⁄6 =5⁄6 =1⁄8 =3⁄8 =5⁄8 =7⁄8 =1⁄ :i",
   "=ii =iii =iv :v =vi =vii =viii =ix :x =xi =xii :lcdmi =ii =iii =iv :v =vi =vii =viii =ix :x",
   "=xi =xii :lcdm 3V :ↄ 5V =0⁄3 2V 4X 156V =∫∫ =∫∫∫ 1V =∮∮ =∮∮∮ 248V :〈〉 255V 22X 11V 21X 9-9263",
   "=10 =11 =12 =13 =14 =15 =16 =17 =18 =19 =20 =(1) =(2) =(3) =(4) =(5) =(6) =(7) =(8) =(9)",
   "=(10) =(11) =(12) =(13) =(14) =(15) =(16) =(17) =(18) =(19) =(20) 20X =(a) =(b) =(c) =(d)",
   "=(e) =(f) =(g) =(h) =(i) =(j) =(k) =(l) =(m) =(n) =(o) =(p) =(q) =(r) =(s) =(t) =(u) =(v)",
   "=(w) =(x) =(y) =(z) 26-9301 26-9327 :0 1313V =∫∫∫∫ 103V 1X === ==== 101V =⫝̸ 151V 2X 138V",
   "48+48 48V :ⱡ 1V :ɫᵽɽ 2V 6~ :ɑɱɐɒ 1V :ⱳ 2V :ⱶ 6V :jvȿɀ 100~ 7V 4~ 3V :ⳳ 1V 5X 45V 1X 1V 5X 1V",
   "2X 56V 7X :ⵡ 1V 14X 24V 9X 7V 1X 7V 1X 7V 1X 7V 1X 7V 1X 7V 1X 7V 1X 7V 1X 126V 34X 26V 1X 4V",
   ":母 83V :龟 12X :一丨丶丿乙亅二亠人儿入八冂冖冫几凵刀力勹匕匚匸十卜卩厂厶又口 :囗土士夂夊夕大女子宀寸小尢尸屮山巛工己巾干幺广廴廾弋弓彐彡彳",
   ":心戈戶手支攴文斗斤方无日曰月木欠止歹殳毋比毛氏气水火爪父爻爿 :片牙牛犬玄玉瓜瓦甘生用田疋疒癶白皮皿目矛矢石示禸禾穴立竹米糸",
   ":缶网羊羽老而耒耳聿肉臣自至臼舌舛舟艮色艸虍虫血行衣襾見角言谷 :豆豕豸貝赤走足身車辛辰辵邑酉釆里金長門阜隶隹雨靑非面革韋韭音",
   ":頁風飛食首香馬骨高髟鬥鬯鬲鬼魚鳥鹵鹿麥麻黃黍黑黹黽鼎鼓鼠鼻齊 :齒龍龜龠 43X 1V :. 51V :〒 1V :十卄卅 5V 1X 86V 2X 2V 2X 2V =より 95V",
   "=コト 5X 43V 1X :ᄀᄁᆪᄂᆬᆭᄃᄄᄅ 6-8074 :ᄚᄆᄇᄈᄡ 10-8252 21-8174 1I :ᄔᄕᇇᇈᇌᇎᇓᇗᇙᄜᇝᇟᄝᄞᄠᄢᄣᄧᄩ 5-8269",
   ":ᄲᄶᅀᅇᅌᇱᇲᅗᅘᅙᆄᆅᆈᆑᆒᆔᆞᆡ 1X 2V :一二三四上中下甲乙丙丁天地人 70V 10X 16V =(ᄀ) =(ᄂ) =(ᄃ) =(ᄅ) =(ᄆ) =(ᄇ) =(ᄉ) =(ᄋ)",
   "=(ᄌ) =(ᄎ) =(ᄏ) =(ᄐ) =(ᄑ) =(ᄒ) =(가) =(나) =(다) =(라) =(마) =(바) =(사) =(아) =(자) =(차) =(카) =(타)",
   "=(파) =(하) =(주) =(오전) =(오후) 1X =(一) =(二) =(三) =(四) =(五) =(六) =(七) =(八) =(九) =(十) =(月) =(火)",
   "=(水) =(木) =(金) =(土) =(日) =(株) =(有) =(社) =(名) =(特) =(財) =(祝) =(労) =(代) =(呼) =(学) =(監) =(企)",
   "=(資) =(協) =(祭) =(休) =(自) =(至) :問幼文箏 8V =pte =21 =22 =23 =24 =25 =26 =27 =28 =29 =30 =31 =32",
   "=33 =34 =35 :ᄀᄂᄃᄅᄆᄇᄉᄋᄌ 5-8539 :가나다라마바사아자차카타파하 =참고 =주의 :우 1V :一二三四五六七八九十月火水木金土日株有社名特財祝労秘男女適優",
   ":印注項休写正上中下左右医宗学監企資協夜 =36 =37 =38 =39 =40 =41 =42 =43 =44 =45 =46 =47 =48 =49 =50 =1月 =2月 =3月",
   "=4月 =5月 =6月 =7月 =8月 =9月 =10月 =11月 =12月 =hg =erg =ev =ltd :アイウエオカキクケコサシスセソタチツテト 6-538 :ヒフヘホ",
   "5-528 :ヤユ 6-525 4-524 =令和 =アパート =アルファ =アンペア =アール =イニング =インチ =ウォン =エスクード =エーカー =オンス =オーム =カイリ",
   "=カラット =カロリー =ガロン =ガンマ =ギガ =ギニー =キュリー =ギルダー =キロ =キログラム =キロメートル =キロワット =グラム =グラムトン =クルゼイロ =クローネ",
   "=ケース =コルナ =コーポ =サイクル =サンチーム =シリング =センチ =セント =ダース =デシ =ドル =トン =ナノ =ノット =ハイツ =パーセント =パーツ =バーレル",
   "=ピアストル =ピクル =ピコ =ビル =ファラッド =フィート =ブッシェル =フラン =ヘクタール =ペソ =ペニヒ =ヘルツ =ペンス =ページ =ベータ =ポイント =ボルト",
   "=ホン =ポンド =ホール =ホーン =マイクロ =マイル =マッハ =マルク =マンション =ミクロン =ミリ =ミリバール =メガ =メガトン =メートル =ヤード =ヤール",
   "=ユアン =リットル =リラ =ルピー =ルーブル =レム =レントゲン =ワット =0点 =1点 =2点 =3点 =4点 =5点 =6点 =7点 =8点 =9点 =10点 =11点",
   "=12点 =13点 =14点 =15点 =16点 =17点 =18点 =19点 =20点 =21点 =22点 =23点 =24点 =hpa =da =au =bar =ov =pc",
   "=dm =dm2 =dm3 =iu =平成 =昭和 =大正 =明治 =株式会社 =pa =na =μa =ma =ka =kb =mb =gb =cal =kcal =pf =nf",
   "=μf =μg =mg =kg =hz =khz =mhz =ghz =thz =μl =ml =dl =kl =fm =nm =μm =mm =cm =km =mm2 =cm2 =m2",
   "=km2 =mm3 =cm3 =m3 =km3 =m∕s =m∕s2 =pa =kpa =mpa =gpa =rad =rad∕s =rad∕s2 =ps =ns =μs =ms =pv",
   "=nv =μv =mv =kv =mv =pw =nw =μw =mw =kw =mw =kω =mω 1X =bq =cc =cd =c∕kg 1X =db =gy =ha =hp",
   "=in =kk =km =kt =lm =ln =log =lx =mb =mil =mol =ph 1X =ppm =pr =sr =sv =wb =v∕m =a∕m =1日 =2日",
   "=3日 =4日 =5日 =6日 =7日 =8日 =9日 =10日 =11日 =12日 =13日 =14日 =15日 =16日 =17日 =18日 =19日 =20日 =21日 =22日",
   "=23日 =24日 =25日 =26日 =27日 =28日 =29日 =30日 =31日 =gal 28813V 3X 55V 9X 348V 20X 46~ 18V 28~ :ъь",
   "90V 8X 34V 14~ 2V 62~ :ꝯ 8V 4~ :ᵹ 10~ 3V :ꞌ 1V :ɥ 2V 4~ 2V 20~ :ɦɜɡɬɪ 1V :ʞʇʝꭓ 16~ :ꞔʂᶎ 4~ :ɤ",
   "16~ :ƛ 20X :scfqꟶ 2V :ħœ 51V 3X 10V 6X 56V 8X 70V 8X 12V 6X 116V 11X 30V 3X 78V 1X 11V 4X 33V",
   "1X 55V 9X 14V 2X 10V 2X 103V 24X 28V 10X 6V 2X 6V 2X 6V 9X 7V 1X 7V 1X 44V :ꜧꬷɫꭒ 9V :ʍ 2V 4X",
   "80-38864 46V 2X 10V 6X 11172V 12X 23V 4X 49V 8452X :豈更車賈滑串句龜龜契金喇奈懶癩羅蘿螺裸邏樂洛烙珞落酪駱亂卵欄",
   ":爛蘭鸞嵐濫藍襤拉臘蠟廊朗浪狼郎來冷勞擄櫓爐盧老蘆虜路露魯鷺碌 :祿綠菉錄鹿論壟弄籠聾牢磊賂雷壘屢樓淚漏累縷陋勒肋凜凌稜綾菱陵",
   ":讀拏樂諾丹寧怒率異北磻便復不泌數索參塞省葉說殺辰沈拾若掠略亮 :兩凉梁糧良諒量勵呂女廬旅濾礪閭驪麗黎力曆歷轢年憐戀撚漣煉璉秊",
   ":練聯輦蓮連鍊列劣咽烈裂說廉念捻殮簾獵令囹寧嶺怜玲瑩羚聆鈴零靈 :領例禮醴隸惡了僚寮尿料樂燎療蓼遼龍暈阮劉杻柳流溜琉留硫紐類六",
   ":戮陸倫崙淪輪律慄栗率隆利吏履易李梨泥理痢罹裏裡里離匿溺吝燐璘 :藺隣鱗麟林淋臨立笠粒狀炙識什茶刺切度拓糖宅洞暴輻行降見廓兀嗀 2V :塚 1V :晴 2V :凞猪益礼神祥福靖精羽 1V",
   ":蘒 1V :諸 2V :逸都 3V :飯飼館鶴郞隷侮僧免勉勤卑喝嘆器塀墨層屮悔慨憎懲敏既暑梅海渚漢 :煮爫琢碑社祉祈祐祖祝禍禎穀突節練縉繁署者臭艹艹著褐視謁謹賓贈 :辶逸難響頻恵𤋮舘",
   "2X :並况全侀充冀勇勺喝啕喙嗢塚墳奄奔婢嬨廒廙彩徭惘慎愈憎慠懲戴揄 :搜摒敖晴朗望杖歹殺流滛滋漢瀞煮瞧爵犯猪瑱甆画瘝瘟益盛直睊着磌",
   ":窱節类絛練缾者荒華蝹襁覆視調諸請謁諾諭謹變贈輸遲醙鉶陼難靖韛 :響頋頻鬒龜𢡊𢡄𣏕㮝䀘䀹𥉉𥳐𧻓齃龎 38X =ff =fi =fl =ffi =ffl =st =st 12X =մն",
   "=մե =մի =վն =մխ 5X =יִ 1V =ײַ :עאדהכלםרת+ =שׁ =שׂ =שּׁ =שּׂ =אַ =אָ =אּ =בּ =גּ =דּ =הּ =וּ",
   "=זּ 1X =טּ =יּ =ךּ =כּ =לּ 1X =מּ 1X =נּ =סּ 1X =ףּ =פּ 1X =צּ =קּ =רּ =שּ =תּ =וֹ =בֿ =כֿ",
   "=פֿ =אל :ٱٱٻٻٻٻپپپپڀڀڀڀٺٺٺٺٿٿٿٿٹٹٹٹڤڤڤڤ :ڦڦڦڦڄڄڄڄڃڃڃڃچچچچڇڇڇڇڍڍڌڌڎڎڈڈژژ",
   ":ڑڑککککگگگگڳڳڳڳڱڱڱڱںںڻڻڻڻۀۀہہہہ :ھھھھےےۓۓ 33V :ڭڭڭڭۇۇۆۆۈۈ =ۇٴ :ۋۋۅۅۉۉېېېېىى =ئا =ئا =ئە =ئە",
   "=ئو =ئو =ئۇ =ئۇ =ئۆ =ئۆ =ئۈ =ئۈ =ئې =ئې =ئې =ئى =ئى =ئى :یییی =ئج =ئح =ئم =ئى =ئي =بج =بح =بخ",
   "=بم =بى =بي =تج =تح =تخ =تم =تى =تي =ثج =ثم =ثى =ثي =جح =جم =حج =حم =خج =خح =خم =سج =سح =سخ",
   "=سم =صح =صم =ضج =ضح =ضخ =ضم =طح =طم =ظم =عج =عم =غج =غم =فج =فح =فخ =فم =فى =في =قح =قم =قى",
   "=قي =كا =كج =كح =كخ =كل =كم =كى =كي =لج =لح =لخ =لم =لى =لي =مج =مح =مخ =مم =مى =مي =نج =نح",
   "=نخ =نم =نى =ني =هج =هم =هى =هي =يج =يح =يخ =يم =يى =يي =ذٰ =رٰ =ىٰ 6X =ئر =ئز =ئم =ئن =ئى",
   "=ئي =بر =بز =بم =بن =بى =بي =تر =تز =تم =تن =تى =تي =ثر =ثز =ثم =ثن =ثى =ثي =فى =في =قى =قي",
   "=كا =كل =كم =كى =كي =لم =لى =لي =ما =مم =نر =نز =نم =نن =نى =ني =ىٰ =ير =يز =يم =ين =يى =يي",
   "=ئج =ئح =ئخ =ئم =ئه =بج =بح =بخ =بم =به =تج =تح =تخ =تم =ته =ثم =جح =جم =حج =حم =خج =خم =سج",
   "=سح =سخ =سم =صح =صخ =صم =ضج =ضح =ضخ =ضم =طح =ظم =عج =عم =غج =غم =فج =فح =فخ =فم =قح =قم =كج",
   "=كح =كخ =كل =كم =لج =لح =لخ =لم =له =مج =مح =مخ =مم =نج =نح =نخ =نم =نه =هج =هم =هٰ =يج =يح",
   "=يخ =يم =يه =ئم =ئه =بم =به =تم =ته =ثم =ثه =سم =سه =شم =شه =كل =كم =لم =نم =نه =يم =يه =ـَّ",
   "=ـُّ =ـِّ =طى =طي =عى =عي =غى =غي =سى =سي =شى =شي =حى =حي =جى =جي =خى =خي =صى =صي =ضى =ضي =شج",
   "=شح =شخ =شم =شر =سر =صر =ضر =طى =طي =عى =عي =غى =غي =سى =سي =شى =شي =حى =حي =جى =جي =خى =خي",
   "=صى =صي =ضى =ضي =شج =شح =شخ =شم =شر =سر =صر =ضر =شج =شح =شخ =شم =سه =شه =طم =سج =سح =سخ =شج",
   "=شح =شخ =طم =ظم =اً =اً 18V =تجم =تحج =تحج =تحم =تخم =تمج =تمح =تمخ =جمح =جمح =حمي =حمى =سحج",
   "=سجح =سجى =سمح =سمح =سمج =سمم =سمم =صحح =صحح =صمم =شحم =شحم =شجي =شمخ =شمخ =شمم =شمم =ضحى",
   "=ضخم =ضخم =طمح =طمح =طمم =طمي =عجم =عمم =عمم =عمى =غمم =غمي =غمى =فخم =فخم =قمح =قمم =لحم",
   "=لحي =لحى =لجج =لجج =لخم =لخم =لمح =لمح =محج =محم =محي =مجح =مجم =مخج =مخم 2V =مجخ =همج =همم",
   "=نحم =نحى =نجم =نجم =نجى =نمي =نمى =يمم =يمم =بخي =تجي =تجى =تخي =تخى =تمي =تمى =جمي =جحى",
   "=جمى =سخى =صحي =شحي =ضحي =لجي =لمي =يحي =يجي =يمي =ممي =قمي =نحي =قمح =لحم =عمي =كمي =نجح",
   "=مخي =لجم =كمم =لجم =نجح =جحي =حجي =مجي =فمي =بحي =كمم =عجم =صمم =سخي =نجي 8V 32X =صلے =قلے",
   "=الله =اكبر =محمد =صلعم =رسول =عليه =وسلم =صلى 2X =ریال 3V 16I :,、 2X :;! 1X :〖〗 7X 16V 1X",
   ":—–__()\x7b\x7d〔〕【】《》〈〉 4-52789 2V 6X :___,、 2X :; 2X :!—()\x7b\x7d〔〕 1X :&*+- 2X := 2X :$ 7X",
   "=ـً 1X 1V 3X =ـَ 1X =ـُ 1X =ـِ 1X =ـّ 1X =ـْ :ءآآأأؤؤإإئئئئااببببةةتتتتثثثثج",
   ":جججححححخخخخددذذررززسسسسششششصصص :صضضضضططططظظظظععععغغغغففففققققك :كككللللممممننننههههووىىيييي",
   "=لآ =لآ =لأ =لأ =لإ =لإ =لا =لا 2X 1I 1X :!\x22 1X :$ 1X 9-65248 1X 10-65248 1X :; 1X := 3X",
   "26-65216 4X 29-65248 1X :\x7d~⦅⦆.「」、・ヲァィゥェォャュョッーアイウエオカキクケコ :サシスセソタチツテト 6-52923 :ヒフヘホ 5-52913",
   ":ヤユ 6-52910 :ワン゙゚ 1I :ᄀᄁᆪᄂᆬᆭᄃᄄᄅ 6-60922 :ᄚᄆᄇᄈᄡ 10-61100 3X 6-61025 2X 6-61027 2X 6-61029 2X",
   ":ᅳᅴᅵ 3X :¢£¬ 1X :¦¥₩ 1X :│ 4-56921 :■○ 17X 12V 1X 26V 1X 19V 1X 2V 1X 15V 2X 14V 34X 123V 5X",
   "3V 4X 45V 3X 88V 1X 13V 3X 1V 47X 46V 130X 29V 3X 49V 15X 28V 4X 36V 9X 30V 5X 43V 5X 30V 1X",
   "37V 4X 14V 42X 40+40 118V 2X 10V 6X 36+40 4X 36V 4X 40V 8X 52V 11X 1V 11+39 1X 15+39 1X 7+39",
   "1X :𐖻𐖼 1X 11V 1X 15V 1X 7V 1X 2V 3X 52V 12X 311V 9X 22V 10X 8V 24X 1V :ːˑæʙɓ 1X",
   ":ʣꭦʥʤɖɗᶑɘɞʩɤɢɠʛħʜɧʄʪʫɬ𝼄ꞎɮ𝼅ʎ𝼆øɶɷ :qɺ𝼈ɽɾʀʨʦꭧʧʈⱱ 1X :ʏʡʢʘǀǁǂ𝼊𝼞 69X 6V 2X 1V 1X 44V 1X 2V 3X 1V",
   "2X 23V 1X 72V 8X 9V 48X 19V 1X 2V 5X 33V 3X 27V 5X 27V 38X 56V 4X 20V 2X 50V 1X 2V 5X 8V 1X",
   "3V 1X 29V 2X 3V 4X 10V 7X 9V 7X 64V 32X 39V 4X 12V 9X 54V 3X 29V 2X 27V 5X 26V 7X 4V 12X 7V",
   "80X 73V 55X 51+64 13X 51V 7X 46V 8X 10V 6X 16V 22+32 3X 29V 8X 2V 208X 31V 1X 42V 1X 3V 2X 2V",
   "16X 6V 8X 9V 33X 46V 8X 42V 22X 26V 38X 28V 20X 23V 9X 78V 4X 36V 9X 62V 1X 5V 13X 25V 7X 10V",
   "6X 53V 1X 18V 8X 39V 9X 96V 1X 20V 11X 18V 1X 47V 62X 7V 1X 1V 1X 4V 1X 15V 1X 11V 6X 59V 5X",
   "10V 6X 4V 1X 8V 2X 2V 2X 22V 1X 7V 1X 2V 1X 5V 1X 10V 2X 2V 2X 3V 2X 1V 6X 1V 5X 7V 2X 7V 3X",
   "5V 11X 10V 1X 1V 2X 1V 1X 38V 1X 10V 1X 1V 2X 1V 1X 4V 1X 10V 1X 2V 8X 2V 29X 92V 1X 5V 30X",
   "72V 8X 10V 166X 54V 2X 38V 34X 69V 11X 10V 6X 13V 19X 58V 6X 10V 6X 20V 28X 27V 2X 15V 4X 23V",
   "185X 60V 100X 32+32 51V 12X 8V 2X 1V 2X 8V 1X 2V 1X 30V 1X 2V 2X 12V 9X 10V 70X 8V 2X 46V 2X",
   "11V 27X 72V 8X 83V 13X 73V 7X 10V 86X 8V 88X 34V 14X 10V 6X 9V 1X 45V 1X 14V 10X 29V 3X 32V",
   "2X 22V 1X 14V 73X 7V 1X 2V 1X 44V 3X 1V 1X 2V 1X 9V 8X 10V 6X 6V 1X 2V 1X 37V 1X 2V 1X 6V 7X",
   "10V 6X 44V 4X 10V 246X 25V 7X 17V 1X 41V 3X 29V 85X 1V 15X 50V 13X 923V 102X 111V 1X 5V 11X",
   "196V 2636X 99V 13X 1072V 16X 22V 10X 3995V 5X 583V 6841X 58V 1734X 569V 7X 31V 1X 10V 4X 81V",
   "1X 10V 6X 30V 2X 6V 10X 70V 10X 10V 1X 7V 1X 21V 5X 19V 432X 58V 198X 32+32 59V 5X 25+27 2X",
   "25V 44X 75V 4X 57V 7X 17V 64X 5V 11X 7V 9X 7382V 41X 32V 97X 115V 8701X 4V 1X 7V 1X 2V 1X",
   "291V 15X 1V 29X 3V 2X 1V 14X 4V 8X 396V 2308X 107V 5X 13V 3X 9V 7X 10V 2X 4V 4I 3932X 214V",
   "26-117877 10-117952 3V 3X 436V 6X 23V 15X 17V 15X 46V 2X 23V 9X 116V 60X 246V 10X 39V 2X 53V",
   "=𝅗𝅥 =𝅘𝅥 =𝅘𝅥𝅮 =𝅘𝅥𝅯 =𝅘𝅥𝅰 =𝅘𝅥𝅱 =𝅘𝅥𝅲 14V 8I 64V =𝆹𝅥 =𝆺𝅥 =𝆹𝅥𝅮 =𝆺𝅥𝅮 =𝆹𝅥𝅯 =𝆺𝅥𝅯 42V 21X 70V 122X 20V",
   "12X 20V 12X 87V 9X 25V 135X 26-119711 26-119737 26-119763 7-119789 1X 18-119789 26-119815",
   "26-119841 :a 1X :cd 2X :g 2X :jk 2X 4-119867 1X 8-119867 4-119893 1X :f 1X 7-119893 1X",
   "11-119893 26-119919 26-119945 :ab 1X 4-119971 2X 8-119971 1X 7-119971 1X 26-119997 :ab 1X",
   "4-120023 1X 5-120023 1X :o 3X 7-120023 1X 26-120049 26-120075 26-120101 26-120127 26-120153",
   "26-120179 26-120205 26-120231 26-120257 26-120283 26-120309 26-120335 26-120361 :ıȷ 2X",
   "17-119543 :θ 7-119543 :∇ 17-119569 :σ 7-119569 :∂εθκφρπ 17-119601 :θ 7-119601 :∇ 17-119627 :σ",
   "7-119627 :∂εθκφρπ 17-119659 :θ 7-119659 :∇ 17-119685 :σ 7-119685 :∂εθκφρπ 17-119717 :θ",
   "7-119717 :∇ 17-119743 :σ 7-119743 :∂εθκφρπ 17-119775 :θ 7-119775 :∇ 17-119801 :σ 7-119801",
   ":∂εθκφρπϝϝ 2X 10-120734 10-120744 10-120754 10-120764 10-120774 652V 15X 5V 1X 15V 1104X 31V",
   "6X 6V 213X 7V 1X 17V 2X 7V 1X 2V 1X 5V 5X 9-121856 :клм 11-121854 :ыэюꚉәіјөүӏ 9-121889 :клопс",
   "6-121884 :ъыґіѕџҫꙑұ 33X 1V 112X 45V 3X 14V 2X 10V 4X 2V 320X 31V 17X 58V 5X 1V 464X 42V 214X",
   "43V 4X 1V 192X 31V 1X 22V 8X 2V 224X 7V 1X 4V 1X 2V 1X 15V 1X 197V 2X 16V 41X 34+34 42V 4X",
   "10V 4X 2V 785X 68V 76X 61V 194X :ابجد 1X :وزحطي 4-124871 :سعفصقرشتثخذضظغٮںڡٯ 1X :بج 1X :ه 2X",
   ":ح 1X :ي 4-124903 :سعفصق 1X :شتثخ 1X :ض 1X :غ 6X :ج 4X :ح 1X :ي 1X :ل 1X :نسع 1X :صق 1X :ش 2X",
   ":خ 1X :ض 1X :غ 1X :ں 1X :ٯ 1X :بج 1X :ه 2X :حطيك 1X :منسعفصق 1X :شتثخ 1X :ضظغٮ 1X :ڡ 1X",
   ":ابجدهوزحطي 1X :لمنسعفصقرشتثخذضظغ 5X :بجد 1X :وزحطي 1X :لمنسعفصقرشتثخذضظغ 52X 2V 270X 44V 4X",
   "100V 12X 15V 2X 15V 1X 15V 1X 37V 11X =0, =1, =2, =3, =4, =5, =6, =7, =8, =9, 5V =(a) =(b)",
   "=(c) =(d) =(e) =(f) =(g) =(h) =(i) =(j) =(k) =(l) =(m) =(n) =(o) =(p) =(q) =(r) =(s) =(t)",
   "=(u) =(v) =(w) =(x) =(y) =(z) =〔s〕 :cr =cd =wz 1V 26-127183 =hv =mv =sd =ss =ppv =wc 26V =mc",
   "=md =mr 35V =dj 29V 56X 26V =ほか =ココ :サ 13X :手字双デ二多解天交映無料前後再新初終生販声吹演投捕一三遊左中 :右指走打禁空合満有月申割営配 4X",
   "=〔本〕 =〔三〕 =〔二〕 =〔安〕 =〔点〕 =〔打〕 =〔盗〕 =〔勝〕 =〔敗〕 7X :得可 14X 6V 154X 985V 3X 17V 3X 13V 3X 218V 6X",
   "12V 4X 1V 15X 12V 4X 56V 8X 10V 6X 40V 8X 30V 2X 12V 4X 2V 14X 9V 39X 344V 8X 14V 2X 13V 3X",
   "11V 3X 57V 1X 1V 4X 16V 2X 12V 4X 10V 7X 147V 1X 92V 10-129984 1V 1029X 42720V 32X 4382V 2X",
   "5774V 2X 7473V 15X 622V 2466X :丽丸乁𠄢你侮侻倂偺備僧像㒞𠘺免兔兤具𠔜㒹內再𠕋冗冤仌冬况𩇟凵 :刃㓟刻剆割剷㔕勇勉勤勺包匆北卉卑博即卽卿卿卿𠨬灰及叟𠭣叫叱吆",
   ":咞吸呈周咢哶唐啓啣善善喙喫喳嗂圖嘆圗噑噴切壮城埴堍型堲報墬𡓤 :売壷夆多夢奢𡚨𡛪姬娛娧姘婦㛮㛼嬈嬾嬾𡧈寃寘寧寳𡬘寿将当尢㞁屠",
   ":屮峀岍𡷤嵃𡷦嵮嵫嵼巡巢㠯巽帨帽幩㡢𢆃㡼庰庳庶廊𪎒廾𢌱𢌱舁弢弢 :㣇𣊸𦇚形彫㣣徚忍志忹悁㤺㤜悔𢛔惇慈慌慎慌慺憎憲憤憯懞懲懶成戛",
   ":扝抱拔捐𢬌挽拼捨掃揤𢯱搢揅掩㨮摩摾撝摷㩬敏敬𣀊旣書晉㬙暑㬈㫤 :冒冕最暜肭䏙朗望朡杞杓𣏃㭉柺枅桒梅𣑭梎栟椔㮝楂榣槪檨𣚣櫛㰘次",
   ":𣢧歔㱎歲殟殺殻𣪍𡴋𣫺汎𣲼沿泍汧洖派海流浩浸涅𣴞洴港湮㴳滋滇𣻑 :淹潮𣽞𣾎濆瀹瀞瀛㶖灊災灷炭𠔥煅𤉣熜𤎫爨爵牐𤘈犀犕𤜵𤠔獺王㺬玥",
   ":㺸㺸瑇瑜瑱璅瓊㼛甤𤰶甾𤲒異𢆟瘐𤾡𤾸𥁄㿼䀈直𥃳𥃲𥄙𥄳眞真真睊䀹 :瞋䁆䂖𥐝硎碌磌䃣𥘦祖𥚚𥛅福秫䄯穀穊穏𥥼𥪧𥪧竮䈂𥮫篆築䈧𥲀糒䊠",
   ":糨糣紀𥾆絣䌁緇縂繅䌴𦈨𦉇䍙𦋙罺𦌾羕翺者𦓚𦔣聠𦖨聰𣍟䏕育脃䐋脾 :媵𦞧𦞵𣎓𣎜舁舄辞䑫芑芋芝劳花芳芽苦𦬼若茝荣莭茣莽菧著荓菊菌菜",
   ":𦰶𦵫𦳕䔫蓱蓳蔖𧏊蕤𦼬䕝䕡𦾱𧃒䕫虐虜虧虩蚩蚈蜎蛢蝹蜨蝫螆䗗蟡蠁 :䗹衠衣𧙧裗裞䘵裺㒻𧢮𧥦䚾䛇誠諭變豕𧲨貫賁贛起𧼯𠠄跋趼跰𠣞軔輸",
   ":𨗒𨗭邔郱鄑𨜮鄛鈸鋗鋘鉼鏹鐕𨯺開䦕閷𨵷䧦雃嶲霣𩅅𩈚䩮䩶韠𩐊䪲𩒖 :頋頋頩𩖶飢䬳餩馧駂駾䯎𩬰鬒鱀鳽䳎䳭鵧𪃎䳸𪄅𪈎𪊑麻䵖黹黾鼅鼏鼖 :鼻𪘀 1506X 4939V 5X 8490V",
   "707718X 240I 196112X"]

end ReleasePipeline.Text

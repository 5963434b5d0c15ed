/-!
# `ReleasePipeline.Text.Compose.Table`: characters that stand for two others

Each word starts with a character that may follow others, mostly a mark. After it stand pairs: a
character that it may follow, and the one that stands for both. Only characters that folded texts
hold are here, in version 17.0 of the character set, and no syllables that are put together by rule.
-/

set_option autoImplicit false

namespace ReleasePipeline.Text

/-- The characters that stand for two others, by the second of the two. -/
def compositeLines : List String :=
  ["̀aàeèiìnǹoòuùwẁyỳâầêềôồüǜăằēḕōṑơờưừαὰεὲηὴ ̀ιὶοὸυὺωὼϊῒϋῢеѐиѝἀἂἁἃἐἒἑἓἠἢἡἣἰἲἱἳὀὂὁὃὐὒὑὓ ̀ὠὢὡὣ",
   "́aácćeégǵiíkḱlĺmḿnńoópṕrŕsśuúwẃyýzźâấåǻæǽ ́çḉêếïḯôốõṍøǿüǘăắēḗōṓũṹơớưứαάεέηήιίοόυύωώ",
   "́ϊΐϋΰгѓкќἀἄἁἅἐἔἑἕἠἤἡἥἰἴἱἵὀὄὁὅὐὔὑὕὠὤὡὥ ̂aâcĉeêgĝhĥiîjĵoôsŝuûwŵyŷzẑạậẹệọộ",
   "̃aãeẽiĩnñoõuũvṽyỹâẫêễôỗăẵơỡưữ ̄aāeēgḡiīoōuūyȳäǟæǣõȭöȫüǖǫǭȧǡȯȱαᾱιῑυῡиӣуӯ ̄ḷḹṛṝ",
   "̆aăeĕgğiĭoŏuŭȩḝαᾰιῐυῠаӑеӗжӂийуўạặ ̇aȧbḃcċdḋeėfḟgġhḣmṁnṅoȯpṗrṙsṡtṫwẇxẋyẏzżśṥ ̇šṧṣṩ𐗒𐗉𐗚𐗤",
   "̈aäeëhḧiïoötẗuüwẅxẍyÿõṏūṻιϊυϋаӓеёжӝзӟиӥоӧ ̈уӱчӵыӹэӭіїәӛөӫ ̉aảeẻiỉoỏuủyỷâẩêểôổăẳơởưử ̊aåuůwẘyẙ",
   "̋oőuűуӳ ̌aǎcčdďeěgǧhȟiǐjǰkǩlľnňoǒrřsštťuǔzžüǚʒǯ ̏aȁeȅiȉoȍrȑuȕѵѷ ̑aȃeȇiȋoȏrȓuȗ",
   "̓αἀεἐηἠιἰοὀρῤυὐωὠ ̔αἁεἑηἡιἱοὁρῥυὑωὡ ̛oơuư ̣aạbḅdḍeẹhḥiịkḳlḷmṃnṇoọrṛsṣtṭuụvṿwẉyỵzẓơợ ̣ưự ̤uṳ",
   "̥aḁ ̦sștț ̧cçdḑeȩgģhḩkķlļnņrŗsştţ ̨aąeęiįoǫuų ̭dḓeḙlḽnṋtṱuṷ ̮hḫ ̰eḛiḭuṵ ̱bḇdḏhẖkḵlḻnṉrṟtṯzẕ",
   "̸<≮=≠>≯←↚→↛↔↮⇐⇍⇒⇏⇔⇎∃∄∈∉∋∌∣∤∥∦∼≁≃≄≅≇≈≉≍≭≡≢ ̸≤≰≥≱≲≴≳≵≶≸≷≹≺⊀≻⊁≼⋠≽⋡⊂⊄⊃⊅⊆⊈⊇⊉⊑⋢⊒⋣⊢⊬⊨⊭⊩⊮⊫⊯ ̸⊲⋪⊳⋫⊴⋬⊵⋭",
   "͂αᾶηῆιῖυῦωῶϊῗϋῧἀἆἁἇἠἦἡἧἰἶἱἷὐὖὑὗὠὦὡὧ ٓاآ ٔاأوؤيئہۂےۓەۀ ٕاإ ़नऩरऱळऴ ােো ৗেৌ ାେୋ ୖେୈ ୗେୌ ாெொேோ",
   "ௗஒஔெௌ ౖెై ೂೆೊ ೕಿೀೆೇೊೋ ೖೆೈ ാെൊേോ ൗെൌ ්ෙේොෝ ාෙො ෟෙෞ ီဥဦ ᬵᬅᬆᬇᬈᬉᬊᬋᬌᬍᬎᬑᬒᬺᬻᬼᬽᬾᭀᬿᭁᭂᭃ",
   "゙うゔかがきぎくぐけげこごさざしじすずせぜそぞただちぢつづてでとどはばひびふぶへべ ゙ほぼゝゞウヴカガキギクグケゲコゴサザシジスズセゼソゾタダチヂツヅテデトドハバヒビ",
   "゙フブヘベホボワヷヰヸヱヹヲヺヽヾ ゚はぱひぴふぷへぺほぽハパヒピフプヘペホポ 𑂺𑂙𑂚𑂛𑂜𑂥𑂫 𑄧𑄱𑄮𑄲𑄯 𑌾𑍇𑍋 𑍗𑍇𑍌 𑎸𑏅𑎸 𑎻𑎄𑎅 𑏂𑎋𑎎𑏅𑏂 𑏉𑎂𑎃𑎐𑎑𑏅𑏉 𑒰𑒹𑒼 𑒺𑒹𑒻",
   "𑒽𑒹𑒾 𑖯𑖸𑖺𑖹𑖻 𑤰𑤵𑤸 𖄡𖄡 𖄟𖄦𖄡𖄦𖄢𖄧𖄩𖄤 𖄠𖄨𖄡𖄨 𖄩𖄡𖄩 𖵧𖵣𖵪𖵨𖵩𖵪"]

end ReleasePipeline.Text

import SiteSettings.Text.Mark

/-! Canonical composition: texts that differ only in how characters with marks are put
together, or in the order of independent marks, have one composed form. -/

namespace SiteSettings.Text

/-- A mark with characters it changes and what they become. A mark may have several rows. -/
structure MarkRow where
  mark : Char
  pairs : List (Char × Char)

namespace MarkRow

private def pair? : List Char → Option (Char × Char)
  | [base, whole] => some (base, whole)
  | _ => none

/-- Each line gives a mark and words of a base and the whole. -/
def ofTable (table : String) : List MarkRow :=
  (tableLines table).filterMap fun
    | [] => none
    | mark :: words => (parseDigits? 16 mark).map fun n => ⟨Char.ofNat n, words.filterMap pair?⟩

end MarkRow

/-- What is taken apart and put together again. -/
def composites : List MarkRow := MarkRow.ofTable "
  300 AÀ EÈ IÌ OÒ UÙ aà eè iì oò uù ÜǛ üǜ NǸ nǹ ЕЀ ИЍ еѐ иѝ ĒḔ ēḕ ŌṐ ōṑ WẀ wẁ ÂẦ âầ ĂẰ ăằ ÊỀ
  300 êề ÔỒ ôồ ƠỜ ơờ ƯỪ ưừ YỲ yỳ ἀἂ ἁἃ ἈἊ ἉἋ ἐἒ ἑἓ ἘἚ ἙἛ ἠἢ ἡἣ ἨἪ ἩἫ ἰἲ ἱἳ ἸἺ ἹἻ ὀὂ ὁὃ ὈὊ ὉὋ
  300 ὐὒ ὑὓ ὙὛ ὠὢ ὡὣ ὨὪ ὩὫ αὰ εὲ ηὴ ιὶ οὸ υὺ ωὼ ΑᾺ ΕῈ ΗῊ ᾿῍ ϊῒ ΙῚ ῾῝ ϋῢ ΥῪ ¨῭ ΟῸ ΩῺ
  301 AÁ EÉ IÍ OÓ UÚ YÝ aá eé ií oó uú yý CĆ cć LĹ lĺ NŃ nń RŔ rŕ SŚ sś ZŹ zź ÜǗ üǘ GǴ gǵ ÅǺ
  301 åǻ ÆǼ æǽ ØǾ øǿ ¨΅ ΑΆ ΕΈ ΗΉ ΙΊ ΟΌ ΥΎ ΩΏ ϊΐ αά εέ ηή ιί ϋΰ οό υύ ωώ ϒϓ ГЃ КЌ гѓ кќ ÇḈ çḉ
  301 ĒḖ ēḗ ÏḮ ïḯ KḰ kḱ MḾ mḿ ÕṌ õṍ ŌṒ ōṓ PṔ pṕ ŨṸ ũṹ WẂ wẃ ÂẤ âấ ĂẮ ăắ ÊẾ êế ÔỐ ôố ƠỚ ơớ ƯỨ
  301 ưứ ἀἄ ἁἅ ἈἌ ἉἍ ἐἔ ἑἕ ἘἜ ἙἝ ἠἤ ἡἥ ἨἬ ἩἭ ἰἴ ἱἵ ἸἼ ἹἽ ὀὄ ὁὅ ὈὌ ὉὍ ὐὔ ὑὕ ὙὝ ὠὤ ὡὥ ὨὬ ὩὭ ᾿῎
  301 ῾῞
  302 AÂ EÊ IÎ OÔ UÛ aâ eê iî oô uû CĈ cĉ GĜ gĝ HĤ hĥ JĴ jĵ SŜ sŝ WŴ wŵ YŶ yŷ ZẐ zẑ ẠẬ ạậ ẸỆ
  302 ẹệ ỌỘ ọộ
  303 AÃ NÑ OÕ aã nñ oõ IĨ iĩ UŨ uũ VṼ vṽ ÂẪ âẫ ĂẴ ăẵ EẼ eẽ ÊỄ êễ ÔỖ ôỗ ƠỠ ơỡ ƯỮ ưữ YỸ yỹ
  304 AĀ aā EĒ eē IĪ iī OŌ oō UŪ uū ÜǕ üǖ ÄǞ äǟ ȦǠ ȧǡ ÆǢ æǣ ǪǬ ǫǭ ÖȪ öȫ ÕȬ õȭ ȮȰ ȯȱ YȲ yȳ ИӢ
  304 иӣ УӮ уӯ GḠ gḡ ḶḸ ḷḹ ṚṜ ṛṝ αᾱ ΑᾹ ιῑ ΙῙ υῡ ΥῩ
  306 AĂ aă EĔ eĕ GĞ gğ IĬ iĭ OŎ oŏ UŬ uŭ УЎ ИЙ ий уў ЖӁ жӂ АӐ аӑ ЕӖ еӗ ȨḜ ȩḝ ẠẶ ạặ αᾰ ΑᾸ ιῐ
  306 ΙῘ υῠ ΥῨ
  307 CĊ cċ EĖ eė GĠ gġ Iİ ZŻ zż AȦ aȧ OȮ oȯ BḂ bḃ DḊ dḋ FḞ fḟ HḢ hḣ MṀ mṁ NṄ nṅ PṖ pṗ RṘ rṙ
  307 SṠ sṡ ŚṤ śṥ ŠṦ šṧ ṢṨ ṣṩ TṪ tṫ WẆ wẇ XẊ xẋ YẎ yẏ ſẛ
  308 AÄ EË IÏ OÖ UÜ aä eë iï oö uü yÿ YŸ ΙΪ ΥΫ ιϊ υϋ ϒϔ ЕЁ ІЇ её ії АӒ аӓ ӘӚ әӛ ЖӜ жӝ ЗӞ зӟ
  308 ИӤ иӥ ОӦ оӧ ӨӪ өӫ ЭӬ эӭ УӰ уӱ ЧӴ чӵ ЫӸ ыӹ HḦ hḧ ÕṎ õṏ ŪṺ ūṻ WẄ wẅ XẌ xẍ tẗ
  309 AẢ aả ÂẨ âẩ ĂẲ ăẳ EẺ eẻ ÊỂ êể IỈ iỉ OỎ oỏ ÔỔ ôổ ƠỞ ơở UỦ uủ ƯỬ ưử YỶ yỷ
  30A AÅ aå UŮ uů wẘ yẙ
  30B OŐ oő UŰ uű УӲ уӳ
  30C CČ cč DĎ dď EĚ eě LĽ lľ NŇ nň RŘ rř SŠ sš TŤ tť ZŽ zž AǍ aǎ IǏ iǐ OǑ oǒ UǓ uǔ ÜǙ üǚ GǦ
  30C gǧ KǨ kǩ ƷǮ ʒǯ jǰ HȞ hȟ
  30F AȀ aȁ EȄ eȅ IȈ iȉ OȌ oȍ RȐ rȑ UȔ uȕ ѴѶ ѵѷ
  311 AȂ aȃ EȆ eȇ IȊ iȋ OȎ oȏ RȒ rȓ UȖ uȗ
  313 αἀ ΑἈ εἐ ΕἘ ηἠ ΗἨ ιἰ ΙἸ οὀ ΟὈ υὐ ωὠ ΩὨ ρῤ
  314 αἁ ΑἉ εἑ ΕἙ ηἡ ΗἩ ιἱ ΙἹ οὁ ΟὉ υὑ ΥὙ ωὡ ΩὩ ρῥ ΡῬ
  31B OƠ oơ UƯ uư
  323 BḄ bḅ DḌ dḍ HḤ hḥ KḲ kḳ LḶ lḷ MṂ mṃ NṆ nṇ RṚ rṛ SṢ sṣ TṬ tṭ VṾ vṿ WẈ wẉ ZẒ zẓ AẠ aạ EẸ
  323 eẹ IỊ iị OỌ oọ ƠỢ ơợ UỤ uụ ƯỰ ưự YỴ yỵ
  324 UṲ uṳ
  325 AḀ aḁ
  326 SȘ sș TȚ tț
  327 CÇ cç GĢ gģ KĶ kķ LĻ lļ NŅ nņ RŖ rŗ SŞ sş TŢ tţ EȨ eȩ DḐ dḑ HḨ hḩ
  328 AĄ aą EĘ eę IĮ iį UŲ uų OǪ oǫ
  32D DḒ dḓ EḘ eḙ LḼ lḽ NṊ nṋ TṰ tṱ UṶ uṷ
  32E HḪ hḫ
  330 EḚ eḛ IḬ iḭ UṴ uṵ
  331 BḆ bḇ DḎ dḏ KḴ kḵ LḺ lḻ NṈ nṉ RṞ rṟ TṮ tṯ ZẔ zẕ hẖ
  338 ←↚ →↛ ↔↮ ⇐⇍ ⇔⇎ ⇒⇏ ∃∄ ∈∉ ∋∌ ∣∤ ∥∦ ∼≁ ≃≄ ≅≇ ≈≉ =≠ ≡≢ ≍≭ <≮ >≯ ≤≰ ≥≱ ≲≴ ≳≵ ≶≸ ≷≹ ≺⊀ ≻⊁ ⊂⊄
  338 ⊃⊅ ⊆⊈ ⊇⊉ ⊢⊬ ⊨⊭ ⊩⊮ ⊫⊯ ≼⋠ ≽⋡ ⊑⋢ ⊒⋣ ⊲⋪ ⊳⋫ ⊴⋬ ⊵⋭
  342 ἀἆ ἁἇ ἈἎ ἉἏ ἠἦ ἡἧ ἨἮ ἩἯ ἰἶ ἱἷ ἸἾ ἹἿ ὐὖ ὑὗ ὙὟ ὠὦ ὡὧ ὨὮ ὩὯ αᾶ ¨῁ ηῆ ᾿῏ ιῖ ϊῗ ῾῟ υῦ ϋῧ ωῶ
  345 ἀᾀ ἁᾁ ἂᾂ ἃᾃ ἄᾄ ἅᾅ ἆᾆ ἇᾇ Ἀᾈ Ἁᾉ Ἂᾊ Ἃᾋ Ἄᾌ Ἅᾍ Ἆᾎ Ἇᾏ ἠᾐ ἡᾑ ἢᾒ ἣᾓ ἤᾔ ἥᾕ ἦᾖ ἧᾗ Ἠᾘ Ἡᾙ Ἢᾚ Ἣᾛ Ἤᾜ
  345 Ἥᾝ Ἦᾞ Ἧᾟ ὠᾠ ὡᾡ ὢᾢ ὣᾣ ὤᾤ ὥᾥ ὦᾦ ὧᾧ Ὠᾨ Ὡᾩ Ὢᾪ Ὣᾫ Ὤᾬ Ὥᾭ Ὦᾮ Ὧᾯ ὰᾲ αᾳ άᾴ ᾶᾷ Αᾼ ὴῂ ηῃ ήῄ ῆῇ Ηῌ
  345 ὼῲ ωῳ ώῴ ῶῷ Ωῼ
  653 اآ
  654 اأ وؤ يئ ەۀ ہۂ ےۓ
  655 اإ
  93C नऩ रऱ ळऴ
  9BE েো
  9D7 েৌ
  B3E େୋ
  B56 େୈ
  B57 େୌ
  BBE ெொ ேோ
  BD7 ஒஔ ெௌ
  C56 ెై
  CC2 ೆೊ
  CD5 ಿೀ ೆೇ ೊೋ
  CD6 ೆೈ
  D3E െൊ േോ
  D57 െൌ
  DCA ෙේ ොෝ
  DCF ෙො
  DDF ෙෞ
  102E ဥဦ
  1B35 ᬅᬆ ᬇᬈ ᬉᬊ ᬋᬌ ᬍᬎ ᬑᬒ ᬺᬻ ᬼᬽ ᬾᭀ ᬿᭁ ᭂᭃ
  3099 かが きぎ くぐ けげ こご さざ しじ すず せぜ そぞ ただ ちぢ つづ てで とど はば ひび ふぶ へべ ほぼ うゔ ゝゞ カガ キギ クグ ケゲ コゴ サザ シジ
  3099 スズ セゼ ソゾ タダ チヂ ツヅ テデ トド ハバ ヒビ フブ ヘベ ホボ ウヴ ワヷ ヰヸ ヱヹ ヲヺ ヽヾ
  309A はぱ ひぴ ふぷ へぺ ほぽ ハパ ヒピ フプ ヘペ ホポ
  110BA 𑂙𑂚 𑂛𑂜 𑂥𑂫
  11127 𑄱𑄮 𑄲𑄯
  1133E 𑍇𑍋
  11357 𑍇𑍌
  114B0 𑒹𑒼
  114BA 𑒹𑒻
  114BD 𑒹𑒾
  115AF 𑖸𑖺 𑖹𑖻
  11930 𑤵𑤸"

/-- What is taken apart for good. -/
def decomposites : List MarkRow := MarkRow.ofTable "
  301 ̈̈́
  338 ⫝⫝̸
  5B4 ייִ
  5B7 ײײַ אאַ
  5B8 אאָ
  5B9 ווֹ
  5BC אאּ בבּ גגּ דדּ ההּ ווּ זזּ טטּ ייּ ךךּ ככּ ללּ ממּ ננּ ססּ ףףּ פפּ צצּ קקּ ררּ ששּ תתּ
  5BF בבֿ ככֿ פפֿ
  5C1 ששׁ שּשּׁ
  5C2 ששׂ שּשּׂ
  93C कक़ खख़ गग़ जज़ डड़ ढढ़ फफ़ यय़
  9BC ডড় ঢঢ় যয়
  A3C ਲਲ਼ ਸਸ਼ ਖਖ਼ ਗਗ਼ ਜਜ਼ ਫਫ਼
  B3C ଡଡ଼ ଢଢ଼
  F72 ཱཱི
  F74 ཱཱུ
  F80 ྲྲྀ ླླྀ ཱཱྀ
  FB5 ཀཀྵ ྐྐྵ
  FB7 གགྷ ཌཌྷ དདྷ བབྷ ཛཛྷ ྒྒྷ ྜྜྷ ྡྡྷ ྦྦྷ ྫྫྷ
  1D165 𝅗𝅗𝅥 𝅘𝅘𝅥 𝆹𝆹𝅥 𝆺𝆺𝅥
  1D16E 𝅘𝅥𝅘𝅥𝅮 𝆹𝅥𝆹𝅥𝅮 𝆺𝅥𝆺𝅥𝅮
  1D16F 𝅘𝅥𝅘𝅥𝅯 𝆹𝅥𝆹𝅥𝅯 𝆺𝅥𝆺𝅥𝅯
  1D170 𝅘𝅥𝅘𝅥𝅰
  1D171 𝅘𝅥𝅘𝅥𝅱
  1D172 𝅘𝅥𝅘𝅥𝅲"

/-- Characters that stand for another one. -/
def duplicates : List CodeRow := CodeRow.ofTable "
  340 ̀ ́
  343 ̓
  374 ʹ
  37E ;
  387 ·
  1F71/2 ά έ ή ί ό ύ ώ
  1FBB Ά
  1FBE ι
  1FC9 Έ
  1FCB Ή
  1FD3 ΐ
  1FDB Ί
  1FE3 ΰ
  1FEB Ύ
  1FEE ΅ `
  1FF9/2 Ό Ώ ´
  2000    
  2126 Ω
  212A K Å
  2329 〈 〉
  F900 豈 更 車 賈 滑 串 句 龜 龜 契 金 喇 奈 懶 癩 羅 蘿 螺 裸 邏 樂 洛 烙 珞 落 酪 駱 亂 卵 欄 爛 蘭 鸞 嵐 濫 藍 襤 拉 臘 蠟 廊 朗 浪 狼 郎 來
  F92E 冷 勞 擄 櫓 爐 盧 老 蘆 虜 路 露 魯 鷺 碌 祿 綠 菉 錄 鹿 論 壟 弄 籠 聾 牢 磊 賂 雷 壘 屢 樓 淚 漏 累 縷 陋 勒 肋 凜 凌 稜 綾 菱 陵 讀 拏
  F95C 樂 諾 丹 寧 怒 率 異 北 磻 便 復 不 泌 數 索 參 塞 省 葉 說 殺 辰 沈 拾 若 掠 略 亮 兩 凉 梁 糧 良 諒 量 勵 呂 女 廬 旅 濾 礪 閭 驪 麗 黎
  F98A 力 曆 歷 轢 年 憐 戀 撚 漣 煉 璉 秊 練 聯 輦 蓮 連 鍊 列 劣 咽 烈 裂 說 廉 念 捻 殮 簾 獵 令 囹 寧 嶺 怜 玲 瑩 羚 聆 鈴 零 靈 領 例 禮 醴
  F9B8 隸 惡 了 僚 寮 尿 料 樂 燎 療 蓼 遼 龍 暈 阮 劉 杻 柳 流 溜 琉 留 硫 紐 類 六 戮 陸 倫 崙 淪 輪 律 慄 栗 率 隆 利 吏 履 易 李 梨 泥 理 痢
  F9E6 罹 裏 裡 里 離 匿 溺 吝 燐 璘 藺 隣 鱗 麟 林 淋 臨 立 笠 粒 狀 炙 識 什 茶 刺 切 度 拓 糖 宅 洞 暴 輻 行 降 見 廓 兀 嗀
  FA10 塚
  FA12 晴
  FA15 凞 猪 益 礼 神 祥 福 靖 精 羽
  FA20 蘒
  FA22 諸
  FA25 逸 都
  FA2A 飯 飼 館 鶴 郞 隷 侮 僧 免 勉 勤 卑 喝 嘆 器 塀 墨 層 屮 悔 慨 憎 懲 敏 既 暑 梅 海 渚 漢 煮 爫 琢 碑 社 祉 祈 祐 祖 祝 禍 禎 穀 突 節 練
  FA58 縉 繁 署 者 臭 艹 艹 著 褐 視 謁 謹 賓 贈 辶 逸 難 響 頻 恵 𤋮 舘
  FA70 並 况 全 侀 充 冀 勇 勺 喝 啕 喙 嗢 塚 墳 奄 奔 婢 嬨 廒 廙 彩 徭 惘 慎 愈 憎 慠 懲 戴 揄 搜 摒 敖 晴 朗 望 杖 歹 殺 流 滛 滋 漢 瀞 煮 瞧
  FA9E 爵 犯 猪 瑱 甆 画 瘝 瘟 益 盛 直 睊 着 磌 窱 節 类 絛 練 缾 者 荒 華 蝹 襁 覆 視 調 諸 請 謁 諾 諭 謹 變 贈 輸 遲 醙 鉶 陼 難 靖 韛 響 頋
  FACC 頻 鬒 龜 𢡊 𢡄 𣏕 㮝 䀘 䀹 𥉉 𥳐 𧻓 齃 龎
  2F800 丽 丸 乁 𠄢 你 侮 侻 倂 偺 備 僧 像 㒞 𠘺 免 兔 兤 具 𠔜 㒹 內 再 𠕋 冗 冤 仌 冬 况 𩇟 凵 刃 㓟 刻 剆 割 剷 㔕 勇 勉 勤 勺 包 匆 北 卉
  2F82D 卑 博 即 卽 卿 卿 卿 𠨬 灰 及 叟 𠭣 叫 叱 吆 咞 吸 呈 周 咢 哶 唐 啓 啣 善 善 喙 喫 喳 嗂 圖 嘆 圗 噑 噴 切 壮 城 埴 堍 型 堲 報 墬 𡓤
  2F85A 売 壷 夆 多 夢 奢 𡚨 𡛪 姬 娛 娧 姘 婦 㛮 㛼 嬈 嬾 嬾 𡧈 寃 寘 寧 寳 𡬘 寿 将 当 尢 㞁 屠 屮 峀 岍 𡷤 嵃 𡷦 嵮 嵫 嵼 巡 巢 㠯 巽 帨 帽
  2F887 幩 㡢 𢆃 㡼 庰 庳 庶 廊 𪎒 廾 𢌱 𢌱 舁 弢 弢 㣇 𣊸 𦇚 形 彫 㣣 徚 忍 志 忹 悁 㤺 㤜 悔 𢛔 惇 慈 慌 慎 慌 慺 憎 憲 憤 憯 懞 懲 懶 成 戛
  2F8B4 扝 抱 拔 捐 𢬌 挽 拼 捨 掃 揤 𢯱 搢 揅 掩 㨮 摩 摾 撝 摷 㩬 敏 敬 𣀊 旣 書 晉 㬙 暑 㬈 㫤 冒 冕 最 暜 肭 䏙 朗 望 朡 杞 杓 𣏃 㭉 柺 枅
  2F8E1 桒 梅 𣑭 梎 栟 椔 㮝 楂 榣 槪 檨 𣚣 櫛 㰘 次 𣢧 歔 㱎 歲 殟 殺 殻 𣪍 𡴋 𣫺 汎 𣲼 沿 泍 汧 洖 派 海 流 浩 浸 涅 𣴞 洴 港 湮 㴳 滋 滇 𣻑
  2F90E 淹 潮 𣽞 𣾎 濆 瀹 瀞 瀛 㶖 灊 災 灷 炭 𠔥 煅 𤉣 熜 𤎫 爨 爵 牐 𤘈 犀 犕 𤜵 𤠔 獺 王 㺬 玥 㺸 㺸 瑇 瑜 瑱 璅 瓊 㼛 甤 𤰶 甾 𤲒 異 𢆟 瘐
  2F93B 𤾡 𤾸 𥁄 㿼 䀈 直 𥃳 𥃲 𥄙 𥄳 眞 真 真 睊 䀹 瞋 䁆 䂖 𥐝 硎 碌 磌 䃣 𥘦 祖 𥚚 𥛅 福 秫 䄯 穀 穊 穏 𥥼 𥪧 𥪧 竮 䈂 𥮫 篆 築 䈧 𥲀 糒 䊠
  2F968 糨 糣 紀 𥾆 絣 䌁 緇 縂 繅 䌴 𦈨 𦉇 䍙 𦋙 罺 𦌾 羕 翺 者 𦓚 𦔣 聠 𦖨 聰 𣍟 䏕 育 脃 䐋 脾 媵 𦞧 𦞵 𣎓 𣎜 舁 舄 辞 䑫 芑 芋 芝 劳 花 芳
  2F995 芽 苦 𦬼 若 茝 荣 莭 茣 莽 菧 著 荓 菊 菌 菜 𦰶 𦵫 𦳕 䔫 蓱 蓳 蔖 𧏊 蕤 𦼬 䕝 䕡 𦾱 𧃒 䕫 虐 虜 虧 虩 蚩 蚈 蜎 蛢 蝹 蜨 蝫 螆 䗗 蟡 蠁
  2F9C2 䗹 衠 衣 𧙧 裗 裞 䘵 裺 㒻 𧢮 𧥦 䚾 䛇 誠 諭 變 豕 𧲨 貫 賁 贛 起 𧼯 𠠄 跋 趼 跰 𠣞 軔 輸 𨗒 𨗭 邔 郱 鄑 𨜮 鄛 鈸 鋗 鋘 鉼 鏹 鐕 𨯺 開
  2F9EF 䦕 閷 𨵷 䧦 雃 嶲 霣 𩅅 𩈚 䩮 䩶 韠 𩐊 䪲 𩒖 頋 頋 頩 𩖶 飢 䬳 餩 馧 駂 駾 䯎 𩬰 鬒 鱀 鳽 䳎 䳭 鵧 𪃎 䳸 𪄅 𪈎 𪊑 麻 䵖 黹 黾 鼅 鼏 鼖
  2FA1C 鼻 𪘀"

/-- Syllables of the Korean alphabet follow from their letters: a leading consonant,
a vowel, and a trailing consonant that may be missing. -/
structure Syllable where
  leading : Nat
  vowel : Nat
  trailing : Nat

namespace Syllable

def ofChar? (c : Char) : Option Syllable :=
  let index := c.toNat - 0xAC00
  if 0xAC00 ≤ c.toNat ∧ index < 19 * 21 * 28 then
    some ⟨index / 28 / 21, index / 28 % 21, index % 28⟩
  else none

def toChar (syllable : Syllable) : Char :=
  Char.ofNat (0xAC00 + (syllable.leading * 21 + syllable.vowel) * 28 + syllable.trailing)

def letters (syllable : Syllable) : List Char :=
  let trailing := if syllable.trailing = 0 then [] else [Char.ofNat (0x11A7 + syllable.trailing)]
  Char.ofNat (0x1100 + syllable.leading) :: Char.ofNat (0x1161 + syllable.vowel) :: trailing

/-- A consonant and a vowel, or a syllable without an end and a consonant. -/
def join? (first second : Char) : Option Syllable :=
  let leading := first.toNat - 0x1100
  let vowel := second.toNat - 0x1161
  let trailing := second.toNat - 0x11A7
  if 0x1100 ≤ first.toNat ∧ leading < 19 ∧ 0x1161 ≤ second.toNat ∧ vowel < 21 then
    some ⟨leading, vowel, 0⟩
  else if 0 < trailing ∧ trailing < 28 then
    ((ofChar? first).filter fun syllable => syllable.trailing = 0).map fun syllable =>
      { syllable with trailing }
  else none

end Syllable

private def findPair? (rows : List MarkRow) (whole : Char) : Option (List Char) :=
  rows.findSome? fun row =>
    (row.pairs.find? fun pair => pair.2 = whole).map fun pair => [pair.1, row.mark]

/-- One step of taking a character apart. -/
def takeApart? (c : Char) : Option (List Char) :=
  if c.toNat < 0xC0 then none
  else
    match Syllable.ofChar? c with
    | some syllable => some syllable.letters
    | none =>
      (findInRows? duplicates c).or ((findPair? composites c).or (findPair? decomposites c))

/-- No character hides more than this many characters inside each other. -/
def nestingDepth : Nat := 4

def decomposeChar : Nat → Char → List Char
  | 0, c => [c]
  | depth + 1, c =>
    match takeApart? c with
    | some parts => parts.flatMap (decomposeChar depth)
    | none => [c]

/-- Puts a character before a text, behind the marks of lower class that it starts with. -/
def insertByClass (c : Char) : List Char → List Char
  | [] => [c]
  | d :: rest =>
    if combiningClass c ≠ 0 ∧ combiningClass d ≠ 0 ∧ combiningClass d < combiningClass c then
      d :: insertByClass c rest
    else c :: d :: rest

/-- Marks on one base in the order of their classes; those of one class keep their order. -/
def decompose (cs : List Char) : List Char :=
  (cs.flatMap (decomposeChar nestingDepth)).foldr insertByClass []

def compose? (first second : Char) : Option Char :=
  if second.toNat < 0x300 then none
  else
    match Syllable.join? first second with
    | some syllable => some syllable.toChar
    | none =>
      (composites.filter fun row => row.mark = second).findSome? fun row =>
        (row.pairs.find? fun pair => pair.1 = first).map fun pair => pair.2

/-- Puts marks onto the base before them. `waiting` holds, last first, the marks that
could not be put there; one of the same class keeps later ones away from the base. -/
def composeOnto (base : Char) (waiting : List Char) : List Char → List Char
  | [] => base :: waiting.reverse
  | c :: rest =>
    let blocked := waiting.head?.any fun last => combiningClass c ≤ combiningClass last
    match if blocked then none else compose? base c with
    | some whole => composeOnto whole waiting rest
    | none =>
      if combiningClass c = 0 then base :: waiting.reverse ++ composeOnto c [] rest
      else composeOnto base (c :: waiting) rest

/-- The composed form. -/
def compose (cs : List Char) : List Char :=
  match decompose cs with
  | [] => []
  | first :: rest => composeOnto first [] rest

end SiteSettings.Text

import WideColumn.Text.Blank

/-!
What characters become when the difference between large and small letters and between forms of one
character no longer counts: letters become small, and ligatures, wide forms, circled and raised
characters become the characters they show. Characters that only control how others look vanish.
-/
namespace WideColumn.Text

structure FoldBlock where
  start : Nat
  images : Array (List Char)

namespace FoldBlock

def letters (start : Nat) (images : String) : FoldBlock :=
  ⟨start, (images.toList.map ([·])).toArray⟩

/-- A block whose code points become words, which are written with section signs in between. -/
def words (start : Nat) (images : String) : FoldBlock :=
  ⟨start, (splitOn '§' images.toList).toArray⟩

def image? (b : FoldBlock) (n : Nat) : Option (List Char) :=
  if b.start ≤ n then b.images[n - b.start]? else none

end FoldBlock

open FoldBlock

private def foldBlocks1 : List FoldBlock :=
  [letters 65 "abcdefghijklmnopqrstuvwxyz",
   letters 160 " ",
   words 168 " \u0308§©§a§«§¬§§®§ \u0304§°§±§2§3§ \u0301§μ§¶§·§ \u0327§1§o§»§1⁄4§1⁄2§3⁄4",
   letters 192 "àáâãäåæçèéêëìíîïðñòóôõö×øùúûüýþ",
   words 223 "ss",
   letters 256 "āāăăąąććĉĉċċččďďđđēēĕĕėėęęěěĝĝğğġġģģĥĥħħĩĩīīĭĭį",
   words 304 "i\u0307§ı§ij§ij§ĵ§ĵ§ķ§ķ§ĸ§ĺ§ĺ§ļ§ļ§ľ§ľ§l·§l·§ł§ł§ń§ń§ņ§ņ§ň§ň§ʼn",
   letters 330 (
    "ŋŋōōŏŏőőœœŕŕŗŗřřśśŝŝşşššţţťťŧŧũũūūŭŭůůűűųųŵŵŷŷÿźźżżžžsƀɓƃƃƅƅɔƈƈɖɗƌƌƍǝəɛƒƒɠɣƕɩɨƙƙƚƛɯɲƞɵơơƣƣ" ++
    "ƥƥʀƨƨʃƪƫƭƭʈưưʊʋƴƴƶƶʒƹƹƺƻƽ"),
   words 452 "dž§dž§dž§lj§lj§lj§nj§nj§nj",
   letters 461 "ǎǎǐǐǒǒǔǔǖǖǘǘǚǚǜǜǝǟǟǡǡǣǣǥǥǧǧǩǩǫǫǭǭǯ",
   words 497 "dz§dz§dz",
   letters 500 "ǵǵƕƿǹǹǻǻǽǽǿǿȁȁȃȃȅȅȇȇȉȉȋȋȍȍȏȏȑȑȓȓȕȕȗȗșșțțȝȝȟȟƞȡȣȣȥȥȧȧȩȩȫȫȭȭȯȯȱȱȳ",
   letters 570 "ⱥȼȼƚⱦȿɀɂɂƀʉʌɇɇɉɉɋɋɍɍɏ",
   letters 688 "hɦjrɹɻʁwy",
   words 728 " \u0306§ \u0307§ \u030a§ \u0328§ \u0303§ \u030b§˞§˟§ɣ§l§s§x§ʕ",
   words 832 "\u0300§\u0301§\u0342§\u0313§\u0308\u0301§ι",
   words 847 "",
   words 880 "ͱ§ͱ§ͳ§ͳ§ʹ§͵§ͷ§ͷ§\u0378§\u0379§ ι§ͻ§ͼ§ͽ§;§ϳ",
   words 900 " \u0301§ \u0308\u0301",
   letters 902 "ά·έήί\u038bό\u038dύώΐαβγδεζηθικλμνξοπρ\u03a2στυφχψωϊϋ",
   letters 962 "σ",
   letters 975 (
    "ϗβθυύϋφπϗϙϙϛϛϝϝϟϟϡϡϣϣϥϥϧϧϩϩϫϫϭϭϯϯκρσϳθε϶ϸϸσϻϻϼͻͼͽѐёђѓєѕіїјљњћќѝўџабвгдежзийклмнопрстуфхцчш" ++
    "щъыьэюя"),
   letters 1120 "ѡѡѣѣѥѥѧѧѩѩѫѫѭѭѯѯѱѱѳѳѵѵѷѷѹѹѻѻѽѽѿѿҁ",
   letters 1162 (
    "ҋҋҍҍҏҏґґғғҕҕҗҗҙҙққҝҝҟҟҡҡңңҥҥҧҧҩҩҫҫҭҭүүұұҳҳҵҵҷҷҹҹһһҽҽҿҿӏӂӂӄӄӆӆӈӈӊӊӌӌӎӎӏӑӑӓӓӕӕӗӗәәӛӛӝӝӟӟӡӡӣӣ" ++
    "ӥӥӧӧөөӫӫӭӭӯӯӱӱӳӳӵӵӷӷӹӹӻӻӽӽӿӿԁԁԃԃԅԅԇԇԉԉԋԋԍԍԏԏԑԑԓԓԕԕԗԗԙԙԛԛԝԝԟԟԡԡԣԣԥԥԧԧԩԩԫԫԭԭԯԯ\u0530աբգդեզէը" ++
    "թժիլխծկհձղճմյնշոչպջռսվտրցւփքօֆ"),
   words 1415 "եւ",
   words 1653 "\u0627\u0674§\u0648\u0674§\u06c7\u0674§\u064a\u0674",
   words 2392 "क\u093c§ख\u093c§ग\u093c§ज\u093c§ड\u093c§ढ\u093c§फ\u093c§य\u093c",
   words 2524 "ড\u09bc§ঢ\u09bc§\u09de§য\u09bc",
   words 2611 "ਲ\u0a3c§\u0a34§ਵ§ਸ\u0a3c",
   words 2649 "ਖ\u0a3c§ਗ\u0a3c§ਜ\u0a3c§ੜ§\u0a5d§ਫ\u0a3c",
   words 2908 "ଡ\u0b3c§ଢ\u0b3c",
   words 3635 "\u0e4dา",
   words 3763 "\u0ecdາ",
   words 3804 "ຫນ§ຫມ",
   letters 3852 "་",
   words 3907 "ག\u0fb7",
   words 3917 "ཌ\u0fb7",
   words 3922 "ད\u0fb7",
   words 3927 "བ\u0fb7",
   words 3932 "ཛ\u0fb7",
   words 3945 "ཀ\u0fb5",
   words 3955 ("\u0f71\u0f72§\u0f74§\u0f71\u0f74§\u0fb2\u0f80§\u0fb2\u0f71\u0f80§\u0fb3\u0f80§" ++
    "\u0fb3\u0f71\u0f80"),
   words 3969 "\u0f71\u0f80",
   words 3987 "\u0f92\u0fb7",
   words 3997 "\u0f9c\u0fb7",
   words 4002 "\u0fa1\u0fb7",
   words 4007 "\u0fa6\u0fb7",
   words 4012 "\u0fab\u0fb7",
   words 4025 "\u0f90\u0fb5",
   letters 4256 "ⴀⴁⴂⴃⴄⴅⴆⴇⴈⴉⴊⴋⴌⴍⴎⴏⴐⴑⴒⴓⴔⴕⴖⴗⴘⴙⴚⴛⴜⴝⴞⴟⴠⴡⴢⴣⴤⴥ\u10c6ⴧ",
   letters 4301 "ⴭ"]

private def foldBlocks2 : List FoldBlock :=
  [letters 5024
    "ꭰꭱꭲꭳꭴꭵꭶꭷꭸꭹꭺꭻꭼꭽꭾꭿꮀꮁꮂꮃꮄꮅꮆꮇꮈꮉꮊꮋꮌꮍꮎꮏꮐꮑꮒꮓꮔꮕꮖꮗꮘꮙꮚꮛꮜꮝꮞꮟꮠꮡꮢꮣꮤꮥꮦꮧꮨꮩꮪꮫꮬꮭꮮꮯꮰꮱꮲꮳꮴꮵꮶꮷꮸꮹꮺꮻꮼꮽꮾꮿᏸᏹᏺᏻᏼᏽ",
   words 6150 "",
   words 6155 "§§",
   letters 7312 "აბგდევზთიკლმნოპჟრსტუფქღყშჩცძწჭხჯჰჱჲჳჴჵჶჷჸჹჺ\u1cbb\u1cbcჽჾჿ",
   letters 7680 (
    "ḁḁḃḃḅḅḇḇḉḉḋḋḍḍḏḏḑḑḓḓḕḕḗḗḙḙḛḛḝḝḟḟḡḡḣḣḥḥḧḧḩḩḫḫḭḭḯḯḱḱḳḳḵḵḷḷḹḹḻḻḽḽḿḿṁṁṃṃṅṅṇṇṉṉṋṋṍṍṏṏṑṑṓṓṕṕṗṗṙṙ" ++
    "ṛṛṝṝṟṟṡṡṣṣṥṥṧṧṩṩṫṫṭṭṯṯṱṱṳṳṵṵṷṷṹṹṻṻṽṽṿṿẁẁẃẃẅẅẇẇẉẉẋẋẍẍẏẏẑẑẓẓẕ"),
   words 7834 "aʾ§ṡ§ẜ§ẝ§ss",
   letters 7840 (
    "ạạảảấấầầẩẩẫẫậậắắằằẳẳẵẵặặẹẹẻẻẽẽếếềềểểễễệệỉỉịịọọỏỏốốồồổổỗỗộộớớờờởởỡỡợợụụủủứứừừửửữữựựỳỳỵỵỷỷỹỹ" ++
    "ỻỻỽỽỿ"),
   letters 7944 "ἀἁἂἃἄἅἆἇ",
   letters 7960 "ἐἑἒἓἔἕ",
   letters 7976 "ἠἡἢἣἤἥἦἧ",
   letters 7992 "ἰἱἲἳἴἵἶἷ",
   letters 8008 "ὀὁὂὃὄὅ",
   letters 8025 "ὑ\u1f5aὓ\u1f5cὕ\u1f5eὗ",
   letters 8040 "ὠὡὢὣὤὥὦὧὰάὲέὴήὶίὸόὺύὼώ",
   words 8064 (
    "ἀι§ἁι§ἂι§ἃι§ἄι§ἅι§ἆι§ἇι§ἀι§ἁι§ἂι§ἃι§ἄι§ἅι§ἆι§ἇι§ἠι§ἡι§ἢι§ἣι§ἤι§ἥι§ἦι§ἧι§ἠι§ἡι§ἢι§ἣι§ἤι§ἥι§" ++
    "ἦι§ἧι§ὠι§ὡι§ὢι§ὣι§ὤι§ὥι§ὦι§ὧι§ὠι§ὡι§ὢι§ὣι§ὤι§ὥι§ὦι§ὧι§ᾰ§ᾱ§ὰι§αι§άι§\u1fb5§ᾶ§ᾶι§ᾰ§ᾱ§ὰ§ά§αι§" ++
    " \u0313§ι§ \u0313§ \u0342§ \u0308\u0342§ὴι§ηι§ήι§\u1fc5§ῆ§ῆι§ὲ§έ§ὴ§ή§ηι§ \u0313\u0300§" ++
    " \u0313\u0301§ \u0313\u0342§ῐ§ῑ§ῒ§ΐ"),
   words 8152 "ῐ§ῑ§ὶ§ί§\u1fdc§ \u0314\u0300§ \u0314\u0301§ \u0314\u0342§ῠ§ῡ§ῢ§ΰ",
   words 8168 (
    "ῠ§ῡ§ὺ§ύ§ῥ§ \u0308\u0300§ \u0308\u0301§`§\u1ff0§\u1ff1§ὼι§ωι§ώι§\u1ff5§ῶ§ῶι§ὸ§ό§ὼ§ώ§ωι§" ++
    " \u0301§ \u0314"),
   letters 8192 "           ",
   words 8203 "§§§\u200e§\u200f§‐§‐",
   words 8215 " \u0333",
   words 8228 ".§..§...",
   words 8239 " §‰§‱§′§′′§′′′§‵§‵‵§‵‵‵",
   words 8252 "!!§‽§ \u0305",
   words 8263 "??§?!§!?",
   words 8279 "′′′′",
   words 8287 " §",
   letters 8304 "0i\u2072\u2073456789+−=()n0123456789+−=()",
   words 8360 "rs",
   words 8448 "a/c§a/s§c§°c§℄§c/o§c/u§ɛ§℈§°f",
   letters 8458 "ghhhhħiill℔n",
   words 8470 "no§℗§℘§p§q§r§r§r§℞§℟§sm§tel§tm",
   letters 8484 "z℥ω℧z℩kåbc℮eefⅎmo\u05d0\u05d1\u05d2\u05d3i℺℻ℼγγπ∑",
   letters 8517 "ddeij",
   words 8531 (
    "1⁄3§2⁄3§1⁄5§2⁄5§3⁄5§4⁄5§1⁄6§5⁄6§1⁄8§3⁄8§5⁄8§7⁄8§1⁄§i§ii§iii§iv§v§vi§vii§viii§ix§x§xi§xii§" ++
    "l§c§d§m§i§ii§iii§iv§v§vi§vii§viii§ix§x§xi§xii§l§c§d§m§ↀ§ↁ§ↂ§ↄ"),
   words 8748 "∫∫§∫∫∫§∮§∮∮§∮∮∮",
   letters 9001 "〈〉",
   words 9312 (
    "1§2§3§4§5§6§7§8§9§10§11§12§13§14§15§16§17§18§19§20§(1)§(2)§(3)§(4)§(5)§(6)§(7)§(8)§(9)§" ++
    "(10)§(11)§(12)§(13)§(14)§(15)§(16)§(17)§(18)§(19)§(20)§1.§2.§3.§4.§5.§6.§7.§8.§9.§10.§11.§" ++
    "12.§13.§14.§15.§16.§17.§18.§19.§20.§(a)§(b)§(c)§(d)§(e)§(f)§(g)§(h)§(i)§(j)§(k)§(l)§(m)§" ++
    "(n)§(o)§(p)§(q)§(r)§(s)§(t)§(u)§(v)§(w)§(x)§(y)§(z)"),
   letters 9398 "abcdefghijklmnopqrstuvwxyzabcdefghijklmnopqrstuvwxyz0",
   words 10764 "∫∫∫∫",
   words 10868 "::=§==§===",
   words 10972 "⫝\u0338",
   letters 11264 "ⰰⰱⰲⰳⰴⰵⰶⰷⰸⰹⰺⰻⰼⰽⰾⰿⱀⱁⱂⱃⱄⱅⱆⱇⱈⱉⱊⱋⱌⱍⱎⱏⱐⱑⱒⱓⱔⱕⱖⱗⱘⱙⱚⱛⱜⱝⱞⱟ",
   letters 11360 "ⱡⱡɫᵽɽⱥⱦⱨⱨⱪⱪⱬⱬɑɱɐɒⱱⱳⱳⱴⱶ",
   letters 11390 (
    "ȿɀⲁⲁⲃⲃⲅⲅⲇⲇⲉⲉⲋⲋⲍⲍⲏⲏⲑⲑⲓⲓⲕⲕⲗⲗⲙⲙⲛⲛⲝⲝⲟⲟⲡⲡⲣⲣⲥⲥⲧⲧⲩⲩⲫⲫⲭⲭⲯⲯⲱⲱⲳⲳⲵⲵⲷⲷⲹⲹⲻⲻⲽⲽⲿⲿⳁⳁⳃⳃⳅⳅⳇⳇⳉⳉⳋⳋⳍⳍⳏⳏⳑⳑⳓⳓⳕⳕⳗⳗ" ++
    "ⳙⳙⳛⳛⳝⳝⳟⳟⳡⳡⳣ"),
   letters 11499 "ⳬⳬⳮ",
   letters 11506 "ⳳ",
   letters 11935 "母",
   letters 12019 "龟",
   letters 12032 (
    "一丨丶丿乙亅二亠人儿入八冂冖冫几凵刀力勹匕匚匸十卜卩厂厶又口囗土士夂夊夕大女子宀寸小尢尸屮山巛工己巾干幺广廴廾弋弓彐彡彳心戈戶手支攴文斗斤方无日曰月木欠止歹殳毋比毛氏气水火爪父爻爿" ++
    "片牙牛犬玄玉瓜瓦甘生用田疋疒癶白皮皿目矛矢石示禸禾穴立竹米糸缶网羊羽老而耒耳聿肉臣自至臼舌舛舟艮色艸虍虫血行衣襾見角言谷豆豕豸貝赤走足身車辛辰辵邑酉釆里金長門阜隶隹雨靑非面革韋韭音" ++
    "頁風飛食首香馬骨高髟鬥鬯鬲鬼魚鳥鹵鹿麥麻黃黍黑黹黽鼎鼓鼠鼻齊齒龍龜龠"),
   letters 12288 " ",
   letters 12342 "〒〷十卄卅"]

private def foldBlocks3 : List FoldBlock :=
  [words 12443 " \u3099§ \u309a§ゝ§ゞ§より",
   words 12543 "コト",
   letters 12593 (
    "ᄀᄁᆪᄂᆬᆭᄃᄄᄅᆰᆱᆲᆳᆴᆵᄚᄆᄇᄈᄡᄉᄊᄋᄌᄍᄎᄏᄐᄑ하ᅢᅣᅤᅥᅦᅧᅨᅩᅪᅫᅬᅭᅮᅯᅰᅱᅲᅳᅴᅵᅠᄔᄕᇇᇈᇌᇎᇓᇗᇙᄜᇝᇟᄝᄞᄠᄢᄣᄧᄩᄫᄬᄭᄮᄯᄲᄶᅀᅇᅌᇱᇲᅗᅘᅙᆄᆅᆈᆑ" ++
    "ᆒᆔᆞᆡ\u318f㆐㆑一二三四上中下甲乙丙丁天地人"),
   words 12800 (
    "(ᄀ)§(ᄂ)§(ᄃ)§(ᄅ)§(ᄆ)§(ᄇ)§(ᄉ)§(ᄋ)§(ᄌ)§(ᄎ)§(ᄏ)§(ᄐ)§(ᄑ)§(ᄒ)§(가)§(나)§(다)§(라)§(마)§(바)§(사)§(아)§" ++
    "(자)§(차)§(카)§(타)§(파)§(하)§(주)§㈝§㈞§\u321f§(一)§(二)§(三)§(四)§(五)§(六)§(七)§(八)§(九)§(十)§(月)§(火)§" ++
    "(水)§(木)§(金)§(土)§(日)§(株)§(有)§(社)§(名)§(特)§(財)§(祝)§(労)§(代)§(呼)§(学)§(監)§(企)§(資)§(協)§(祭)§(休)§" ++
    "(自)§(至)"),
   words 12881 "21§22§23§24§25§26§27§28§29§30§31§32§33§34§35",
   letters 12896 "ᄀᄂᄃᄅᄆᄇᄉᄋᄌᄎᄏᄐᄑᄒ가나다라마바사아자차카타파하",
   letters 12928 "一二三四五六七八九十月火水木金土日株有社名特財祝労秘男女適優印注項休写正上中下左右医宗学監企資協夜",
   words 12977
    "36§37§38§39§40§41§42§43§44§45§46§47§48§49§50§1月§2月§3月§4月§5月§6月§7月§8月§9月§10月§11月§12月",
   letters 13008 "アイウエオカキクケコサシスセソタチツテトナニヌネノハヒフヘホマミムメモヤユヨラリルレロワヰヱヲ",
   words 13056 (
    "アパート§アルファ§アンペア§アール§イニング§インチ§ウォン§エスクード§エーカー§オンス§オーム§カイリ§カラット§カロリー§ガロン§ガンマ§ギガ§ギニー§キュリー§ギルダー§" ++
    "キロ§キログラム§キロメートル§キロワット§グラム§グラムトン§クルゼイロ§クローネ§ケース§コルナ§コーポ§サイクル§サンチーム§シリング§センチ§セント§ダース§デシ§ドル§" ++
    "トン§ナノ§ノット§ハイツ§パーセント§パーツ§バーレル§ピアストル§ピクル§ピコ§ビル§ファラッド§フィート§ブッシェル§フラン§ヘクタール§ペソ§ペニヒ§ヘルツ§ペンス§" ++
    "ページ§ベータ§ポイント§ボルト§ホン§ポンド§ホール§ホーン§マイクロ§マイル§マッハ§マルク§マンション§ミクロン§ミリ§ミリバール§メガ§メガトン§メートル§ヤード§ヤール§" ++
    "ユアン§リットル§リラ§ルピー§ルーブル§レム§レントゲン§ワット§0点§1点§2点§3点§4点§5点§6点§7点§8点§9点§10点§11点§12点§13点§14点§15点§" ++
    "16点§17点§18点§19点§20点§21点§22点§23点§24点§hpa§da§au§bar§ov§pc"),
   words 13179 (
    "平成§昭和§大正§明治§株式会社§pa§na§μa§ma§ka§kb§mb§gb§cal§kcal§pf§nf§μf§μg§mg§kg§hz§khz§mhz§ghz§thz§μl§" ++
    "ml§dl§kl§fm§nm§μm§mm§cm§km§mm2§cm2§m2§km2§mm3§cm3§m3§km3§m∕s§m∕s2§pa§kpa§mpa§gpa§rad§" ++
    "rad∕s§rad∕s2§ps§ns§μs§ms§pv§nv§μv§mv§kv§mv§pw§nw§μw§mw§kw§mw§kω§mω§a.m.§bq§cc§cd§c∕kg§co.§" ++
    "db§gy§ha§hp§in§kk§km§kt§lm§ln§log§lx§mb§mil§mol§ph§p.m.§ppm§pr§sr§sv§wb§㏞§㏟§1日§2日§3日§4日§" ++
    "5日§6日§7日§8日§9日§10日§11日§12日§13日§14日§15日§16日§17日§18日§19日§20日§21日§22日§23日§24日§25日§26日§27日§" ++
    "28日§29日§30日§31日"),
   letters 42560 "ꙁꙁꙃꙃꙅꙅꙇꙇꙉꙉꙋꙋꙍꙍꙏꙏꙑꙑꙓꙓꙕꙕꙗꙗꙙꙙꙛꙛꙝꙝꙟꙟꙡꙡꙣꙣꙥꙥꙧꙧꙩꙩꙫꙫꙭ",
   letters 42624 "ꚁꚁꚃꚃꚅꚅꚇꚇꚉꚉꚋꚋꚍꚍꚏꚏꚑꚑꚓꚓꚕꚕꚗꚗꚙꚙꚛ",
   letters 42786 "ꜣꜣꜥꜥꜧꜧꜩꜩꜫꜫꜭꜭꜯꜯꜰꜱꜳꜳꜵꜵꜷꜷꜹꜹꜻꜻꜽꜽꜿꜿꝁꝁꝃꝃꝅꝅꝇꝇꝉꝉꝋꝋꝍꝍꝏꝏꝑꝑꝓꝓꝕꝕꝗꝗꝙꝙꝛꝛꝝꝝꝟꝟꝡꝡꝣꝣꝥꝥꝧꝧꝩꝩꝫꝫꝭꝭꝯ",
   letters 42873 "ꝺꝺꝼꝼᵹꝿꝿꞁꞁꞃꞃꞅꞅꞇ",
   letters 42891 "ꞌꞌɥꞎꞏꞑꞑꞓꞓꞔꞕꞗꞗꞙꞙꞛꞛꞝꞝꞟꞟꞡꞡꞣꞣꞥꞥꞧꞧꞩꞩɦɜɡɬɪꞯʞʇʝꭓꞵꞵꞷꞷꞹꞹꞻꞻꞽꞽꞿꞿꟁꟁꟃꟃꞔʂᶎꟈꟈꟊ",
   letters 42960 "ꟑ",
   letters 42966 "ꟗꟗꟙ",
   letters 42997 "ꟶ",
   letters 63744 (
    "豈更車賈滑串句龜龜契金喇奈懶癩羅蘿螺裸邏樂洛烙珞落酪駱亂卵欄爛蘭鸞嵐濫藍襤拉臘蠟廊朗浪狼郎來冷勞擄櫓爐盧老蘆虜路露魯鷺碌祿綠菉錄鹿論壟弄籠聾牢磊賂雷壘屢樓淚漏累縷陋勒肋凜凌稜綾菱陵" ++
    "讀拏樂諾丹寧怒率異北磻便復不泌數索參塞省葉說殺辰沈拾若掠略亮兩凉梁糧良諒量勵呂女廬旅濾礪閭驪麗黎力曆歷轢年憐戀撚漣煉璉秊練聯輦蓮連鍊列劣咽烈裂說廉念捻殮簾獵令囹寧嶺怜玲瑩羚聆鈴零靈" ++
    "領例禮醴隸惡了僚寮尿料樂燎療蓼遼龍暈阮劉杻柳流溜琉留硫紐類六戮陸倫崙淪輪律慄栗率隆利吏履易李梨泥理痢罹裏裡里離匿溺吝燐璘藺隣鱗麟林淋臨立笠粒狀炙識什茶刺切度拓糖宅洞暴輻行降見廓兀嗀" ++
    "﨎﨏塚﨑晴﨓﨔凞猪益礼神祥福靖精羽﨟蘒﨡諸﨣﨤逸都﨧﨨﨩飯飼館鶴郞隷侮僧免勉勤卑喝嘆器塀墨層屮悔慨憎懲敏既暑梅海渚漢煮爫琢碑社祉祈祐祖祝禍禎穀突節練縉繁署者臭艹艹著褐視謁謹賓贈辶逸" ++
    "難響頻"),
   words 64256 "ff§fi§fl§ffi§ffl§st§st",
   words 64275 "մն§մե§մի§վն§մխ",
   words 64285 (
    "\u05d9\u05b4§\ufb1e§\u05f2\u05b7§\u05e2§\u05d0§\u05d3§\u05d4§\u05db§\u05dc§\u05dd§\u05e8§" ++
    "\u05ea§+§\u05e9\u05c1§\u05e9\u05c2§\u05e9\u05bc\u05c1§\u05e9\u05bc\u05c2§\u05d0\u05b7§" ++
    "\u05d0\u05b8§\u05d0\u05bc§\u05d1\u05bc§\u05d2\u05bc§\u05d3\u05bc§\u05d4\u05bc§" ++
    "\u05d5\u05bc§\u05d6\u05bc§\ufb37§\u05d8\u05bc§\u05d9\u05bc§\u05da\u05bc§\u05db\u05bc§" ++
    "\u05dc\u05bc§\ufb3d§\u05de\u05bc§\ufb3f§\u05e0\u05bc§\u05e1\u05bc§\ufb42§\u05e3\u05bc§" ++
    "\u05e4\u05bc§\ufb45§\u05e6\u05bc§\u05e7\u05bc§\u05e8\u05bc§\u05e9\u05bc§\u05ea\u05bc§" ++
    "\u05d5\u05b9§\u05d1\u05bf§\u05db\u05bf§\u05e4\u05bf§\u05d0\u05dc"),
   letters 64336 (
    "\u0671\u0671\u067b\u067b\u067b\u067b\u067e\u067e\u067e\u067e\u0680\u0680\u0680\u0680\u067a" ++
    "\u067a\u067a\u067a\u067f\u067f\u067f\u067f\u0679\u0679\u0679\u0679\u06a4\u06a4\u06a4\u06a4" ++
    "\u06a6\u06a6\u06a6\u06a6\u0684\u0684\u0684\u0684\u0683\u0683\u0683\u0683\u0686\u0686\u0686" ++
    "\u0686\u0687\u0687\u0687\u0687\u068d\u068d\u068c\u068c\u068e\u068e\u0688\u0688\u0698\u0698" ++
    "\u0691\u0691\u06a9\u06a9\u06a9\u06a9\u06af\u06af\u06af\u06af\u06b3\u06b3\u06b3\u06b3\u06b1" ++
    "\u06b1\u06b1\u06b1\u06ba\u06ba\u06bb\u06bb\u06bb\u06bb\u06c0\u06c0\u06c1\u06c1\u06c1\u06c1" ++
    "\u06be\u06be\u06be\u06be\u06d2\u06d2\u06d3\u06d3"),
   words 64467 "\u06ad§\u06ad§\u06ad§\u06ad§\u06c7§\u06c7§\u06c6§\u06c6§\u06c8§\u06c8§\u06c7\u0674",
   letters 64478 "\u06cb\u06cb\u06c5\u06c5\u06c9\u06c9\u06d0\u06d0\u06d0\u06d0\u0649\u0649",
   words 64490 ("\u0626\u0627§\u0626\u0627§\u0626\u06d5§\u0626\u06d5§\u0626\u0648§\u0626\u0648§" ++
    "\u0626\u06c7§\u0626\u06c7§\u0626\u06c6§\u0626\u06c6§\u0626\u06c8§\u0626\u06c8§" ++
    "\u0626\u06d0§\u0626\u06d0§\u0626\u06d0§\u0626\u0649§\u0626\u0649§\u0626\u0649§\u06cc§" ++
    "\u06cc§\u06cc§\u06cc§\u0626\u062c§\u0626\u062d§\u0626\u0645§\u0626\u0649§\u0626\u064a§" ++
    "\u0628\u062c§\u0628\u062d§\u0628\u062e§\u0628\u0645§\u0628\u0649§\u0628\u064a§" ++
    "\u062a\u062c§\u062a\u062d§\u062a\u062e§\u062a\u0645§\u062a\u0649§\u062a\u064a§" ++
    "\u062b\u062c§\u062b\u0645§\u062b\u0649§\u062b\u064a§\u062c\u062d§\u062c\u0645§" ++
    "\u062d\u062c§\u062d\u0645§\u062e\u062c§\u062e\u062d§\u062e\u0645§\u0633\u062c§" ++
    "\u0633\u062d§\u0633\u062e§\u0633\u0645§\u0635\u062d§\u0635\u0645§\u0636\u062c§" ++
    "\u0636\u062d§\u0636\u062e§\u0636\u0645§\u0637\u062d§\u0637\u0645§\u0638\u0645§" ++
    "\u0639\u062c§\u0639\u0645§\u063a\u062c§\u063a\u0645§\u0641\u062c§\u0641\u062d§" ++
    "\u0641\u062e§\u0641\u0645§\u0641\u0649§\u0641\u064a§\u0642\u062d§\u0642\u0645§" ++
    "\u0642\u0649§\u0642\u064a§\u0643\u0627§\u0643\u062c§\u0643\u062d§\u0643\u062e§" ++
    "\u0643\u0644§\u0643\u0645§\u0643\u0649§\u0643\u064a§\u0644\u062c§\u0644\u062d§" ++
    "\u0644\u062e§\u0644\u0645§\u0644\u0649§\u0644\u064a§\u0645\u062c§\u0645\u062d§" ++
    "\u0645\u062e§\u0645\u0645§\u0645\u0649§\u0645\u064a§\u0646\u062c§\u0646\u062d§" ++
    "\u0646\u062e§\u0646\u0645§\u0646\u0649§\u0646\u064a§\u0647\u062c§\u0647\u0645§" ++
    "\u0647\u0649§\u0647\u064a§\u064a\u062c§\u064a\u062d§\u064a\u062e§\u064a\u0645§" ++
    "\u064a\u0649§\u064a\u064a§\u0630\u0670§\u0631\u0670§\u0649\u0670§ \u064c\u0651§" ++
    " \u064d\u0651§ \u064e\u0651§ \u064f\u0651§ \u0650\u0651§ \u0651\u0670§\u0626\u0631§" ++
    "\u0626\u0632§\u0626\u0645§\u0626\u0646§\u0626\u0649§\u0626\u064a§\u0628\u0631§" ++
    "\u0628\u0632§\u0628\u0645§\u0628\u0646§\u0628\u0649§\u0628\u064a§\u062a\u0631§" ++
    "\u062a\u0632§\u062a\u0645§\u062a\u0646§\u062a\u0649§\u062a\u064a§\u062b\u0631§" ++
    "\u062b\u0632§\u062b\u0645§\u062b\u0646§\u062b\u0649§\u062b\u064a§\u0641\u0649§" ++
    "\u0641\u064a§\u0642\u0649§\u0642\u064a§\u0643\u0627§\u0643\u0644§\u0643\u0645§" ++
    "\u0643\u0649§\u0643\u064a§\u0644\u0645§\u0644\u0649§\u0644\u064a§\u0645\u0627§" ++
    "\u0645\u0645§\u0646\u0631§\u0646\u0632§\u0646\u0645§\u0646\u0646§\u0646\u0649§" ++
    "\u0646\u064a§\u0649\u0670§\u064a\u0631§\u064a\u0632§\u064a\u0645§\u064a\u0646§" ++
    "\u064a\u0649§\u064a\u064a§\u0626\u062c§\u0626\u062d§\u0626\u062e§\u0626\u0645§" ++
    "\u0626\u0647§\u0628\u062c§\u0628\u062d§\u0628\u062e§\u0628\u0645§\u0628\u0647§" ++
    "\u062a\u062c§\u062a\u062d§\u062a\u062e§\u062a\u0645§\u062a\u0647§\u062b\u0645§" ++
    "\u062c\u062d§\u062c\u0645§\u062d\u062c§\u062d\u0645§\u062e\u062c§\u062e\u0645§" ++
    "\u0633\u062c§\u0633\u062d§\u0633\u062e§\u0633\u0645§\u0635\u062d§\u0635\u062e§" ++
    "\u0635\u0645§\u0636\u062c§\u0636\u062d§\u0636\u062e§\u0636\u0645§\u0637\u062d§" ++
    "\u0638\u0645§\u0639\u062c§\u0639\u0645§\u063a\u062c§\u063a\u0645§\u0641\u062c§" ++
    "\u0641\u062d§\u0641\u062e§\u0641\u0645§\u0642\u062d§\u0642\u0645§\u0643\u062c§" ++
    "\u0643\u062d§\u0643\u062e§\u0643\u0644§\u0643\u0645§\u0644\u062c§\u0644\u062d§" ++
    "\u0644\u062e§\u0644\u0645§\u0644\u0647§\u0645\u062c§\u0645\u062d§\u0645\u062e§" ++
    "\u0645\u0645§\u0646\u062c§\u0646\u062d§\u0646\u062e§\u0646\u0645§\u0646\u0647§" ++
    "\u0647\u062c§\u0647\u0645§\u0647\u0670§\u064a\u062c§\u064a\u062d§\u064a\u062e§" ++
    "\u064a\u0645§\u064a\u0647§\u0626\u0645§\u0626\u0647§\u0628\u0645§\u0628\u0647§" ++
    "\u062a\u0645§\u062a\u0647§\u062b\u0645§\u062b\u0647§\u0633\u0645§\u0633\u0647§" ++
    "\u0634\u0645§\u0634\u0647§\u0643\u0644§\u0643\u0645§\u0644\u0645§\u0646\u0645§" ++
    "\u0646\u0647§\u064a\u0645§\u064a\u0647§\u0640\u064e\u0651§\u0640\u064f\u0651§" ++
    "\u0640\u0650\u0651§\u0637\u0649§\u0637\u064a§\u0639\u0649§\u0639\u064a§\u063a\u0649§" ++
    "\u063a\u064a§\u0633\u0649§\u0633\u064a§\u0634\u0649§\u0634\u064a§\u062d\u0649§" ++
    "\u062d\u064a§\u062c\u0649§\u062c\u064a§\u062e\u0649§\u062e\u064a§\u0635\u0649§" ++
    "\u0635\u064a§\u0636\u0649§\u0636\u064a§\u0634\u062c§\u0634\u062d§\u0634\u062e§" ++
    "\u0634\u0645§\u0634\u0631§\u0633\u0631§\u0635\u0631§\u0636\u0631§\u0637\u0649§" ++
    "\u0637\u064a§\u0639\u0649§\u0639\u064a§\u063a\u0649§\u063a\u064a§\u0633\u0649§" ++
    "\u0633\u064a§\u0634\u0649§\u0634\u064a§\u062d\u0649§\u062d\u064a§\u062c\u0649§" ++
    "\u062c\u064a§\u062e\u0649§\u062e\u064a§\u0635\u0649§\u0635\u064a§\u0636\u0649§" ++
    "\u0636\u064a§\u0634\u062c§\u0634\u062d§\u0634\u062e§\u0634\u0645§\u0634\u0631§" ++
    "\u0633\u0631§\u0635\u0631§\u0636\u0631§\u0634\u062c§\u0634\u062d§\u0634\u062e§" ++
    "\u0634\u0645§\u0633\u0647§\u0634\u0647§\u0637\u0645§\u0633\u062c§\u0633\u062d§" ++
    "\u0633\u062e§\u0634\u062c§\u0634\u062d§\u0634\u062e§\u0637\u0645§\u0638\u0645§" ++
    "\u0627\u064b§\u0627\u064b"),
   words 64848 ("\u062a\u062c\u0645§\u062a\u062d\u062c§\u062a\u062d\u062c§\u062a\u062d\u0645§" ++
    "\u062a\u062e\u0645§\u062a\u0645\u062c§\u062a\u0645\u062d§\u062a\u0645\u062e§" ++
    "\u062c\u0645\u062d§\u062c\u0645\u062d§\u062d\u0645\u064a§\u062d\u0645\u0649§" ++
    "\u0633\u062d\u062c§\u0633\u062c\u062d§\u0633\u062c\u0649§\u0633\u0645\u062d§" ++
    "\u0633\u0645\u062d§\u0633\u0645\u062c§\u0633\u0645\u0645§\u0633\u0645\u0645§" ++
    "\u0635\u062d\u062d§\u0635\u062d\u062d§\u0635\u0645\u0645§\u0634\u062d\u0645§" ++
    "\u0634\u062d\u0645§\u0634\u062c\u064a§\u0634\u0645\u062e§\u0634\u0645\u062e§" ++
    "\u0634\u0645\u0645§\u0634\u0645\u0645§\u0636\u062d\u0649§\u0636\u062e\u0645§" ++
    "\u0636\u062e\u0645§\u0637\u0645\u062d§\u0637\u0645\u062d§\u0637\u0645\u0645§" ++
    "\u0637\u0645\u064a§\u0639\u062c\u0645§\u0639\u0645\u0645§\u0639\u0645\u0645§" ++
    "\u0639\u0645\u0649§\u063a\u0645\u0645§\u063a\u0645\u064a§\u063a\u0645\u0649§" ++
    "\u0641\u062e\u0645§\u0641\u062e\u0645§\u0642\u0645\u062d§\u0642\u0645\u0645§" ++
    "\u0644\u062d\u0645§\u0644\u062d\u064a§\u0644\u062d\u0649§\u0644\u062c\u062c§" ++
    "\u0644\u062c\u062c§\u0644\u062e\u0645§\u0644\u062e\u0645§\u0644\u0645\u062d§" ++
    "\u0644\u0645\u062d§\u0645\u062d\u062c§\u0645\u062d\u0645§\u0645\u062d\u064a§" ++
    "\u0645\u062c\u062d§\u0645\u062c\u0645§\u0645\u062e\u062c§\u0645\u062e\u0645§\ufd90§\ufd91§" ++
    "\u0645\u062c\u062e§\u0647\u0645\u062c§\u0647\u0645\u0645§\u0646\u062d\u0645§" ++
    "\u0646\u062d\u0649§\u0646\u062c\u0645§\u0646\u062c\u0645§\u0646\u062c\u0649§" ++
    "\u0646\u0645\u064a§\u0646\u0645\u0649§\u064a\u0645\u0645§\u064a\u0645\u0645§" ++
    "\u0628\u062e\u064a§\u062a\u062c\u064a§\u062a\u062c\u0649§\u062a\u062e\u064a§" ++
    "\u062a\u062e\u0649§\u062a\u0645\u064a§\u062a\u0645\u0649§\u062c\u0645\u064a§" ++
    "\u062c\u062d\u0649§\u062c\u0645\u0649§\u0633\u062e\u0649§\u0635\u062d\u064a§" ++
    "\u0634\u062d\u064a§\u0636\u062d\u064a§\u0644\u062c\u064a§\u0644\u0645\u064a§" ++
    "\u064a\u062d\u064a§\u064a\u062c\u064a§\u064a\u0645\u064a§\u0645\u0645\u064a§" ++
    "\u0642\u0645\u064a§\u0646\u062d\u064a§\u0642\u0645\u062d§\u0644\u062d\u0645§" ++
    "\u0639\u0645\u064a§\u0643\u0645\u064a§\u0646\u062c\u062d§\u0645\u062e\u064a§" ++
    "\u0644\u062c\u0645§\u0643\u0645\u0645§\u0644\u062c\u0645§\u0646\u062c\u062d§" ++
    "\u062c\u062d\u064a§\u062d\u062c\u064a§\u0645\u062c\u064a§\u0641\u0645\u064a§" ++
    "\u0628\u062d\u064a§\u0643\u0645\u0645§\u0639\u062c\u0645§\u0635\u0645\u0645§" ++
    "\u0633\u062e\u064a§\u0646\u062c\u064a"),
   words 65008 (
    "\u0635\u0644\u06d2§\u0642\u0644\u06d2§\u0627\u0644\u0644\u0647§\u0627\u0643\u0628\u0631§" ++
    "\u0645\u062d\u0645\u062f§\u0635\u0644\u0639\u0645§\u0631\u0633\u0648\u0644§" ++
    "\u0639\u0644\u064a\u0647§\u0648\u0633\u0644\u0645§\u0635\u0644\u0649§" ++
    "\u0635\u0644\u0649 \u0627\u0644\u0644\u0647 \u0639\u0644\u064a\u0647 " ++
    "\u0648\u0633\u0644\u0645§" ++
    "\u062c\u0644 \u062c\u0644\u0627\u0644\u0647§\u0631\u06cc\u0627\u0644§﷽§﷾§﷿§§§§§§§§§§§§§§§§"),
   words 65072 "..",
   letters 65073 "—–__()\x7b\x7d〔〕【】《》〈〉「」『』",
   words 65097 " \u0305§ \u0305§ \u0305§ \u0305",
   letters 65101 "___,、.\ufe53;:?!—()\x7b\x7d〔〕#&*+-<>=\ufe67\\$%@",
   words 65136 (
    " \u064b§\u0640\u064b§ \u064c§\ufe73§ \u064d§\ufe75§ \u064e§\u0640\u064e§ \u064f§" ++
    "\u0640\u064f§ \u0650§\u0640\u0650§ \u0651§\u0640\u0651§ \u0652§\u0640\u0652"),
   letters 65152 (
    "\u0621\u0622\u0622\u0623\u0623\u0624\u0624\u0625\u0625\u0626\u0626\u0626\u0626\u0627\u0627" ++
    "\u0628\u0628\u0628\u0628\u0629\u0629\u062a\u062a\u062a\u062a\u062b\u062b\u062b\u062b\u062c" ++
    "\u062c\u062c\u062c\u062d\u062d\u062d\u062d\u062e\u062e\u062e\u062e\u062f\u062f\u0630\u0630" ++
    "\u0631\u0631\u0632\u0632\u0633\u0633\u0633\u0633\u0634\u0634\u0634\u0634\u0635\u0635\u0635" ++
    "\u0635\u0636\u0636\u0636\u0636\u0637\u0637\u0637\u0637\u0638\u0638\u0638\u0638\u0639\u0639" ++
    "\u0639\u0639\u063a\u063a\u063a\u063a\u0641\u0641\u0641\u0641\u0642\u0642\u0642\u0642\u0643" ++
    "\u0643\u0643\u0643\u0644\u0644\u0644\u0644\u0645\u0645\u0645\u0645\u0646\u0646\u0646\u0646" ++
    "\u0647\u0647\u0647\u0647\u0648\u0648\u0649\u0649\u064a\u064a\u064a\u064a"),
   words 65269 ("\u0644\u0622§\u0644\u0622§\u0644\u0623§\u0644\u0623§\u0644\u0625§\u0644\u0625§" ++
    "\u0644\u0627§\u0644\u0627§\ufefd§\ufefe§"),
   letters 65281 (
    "!\"#$%&'()*+,-./0123456789:;<=>?@abcdefghijklmnopqrstuvwxyz[\\]^_`abcdefghijklmnopqrstuvwx" ++
    "yz\x7b|\x7d~⦅⦆。「」、・ヲァィゥェォャュョッーアイウエオカキクケコサシスセソタチツテトナニヌネノハヒフヘホマミムメモヤユヨラリルレロワン\u3099\u309aᅠᄀᄁ" ++
    "ᆪᄂᆬᆭᄃᄄᄅᆰᆱᆲᆳᆴᆵᄚᄆᄇᄈᄡᄉᄊᄋᄌᄍᄎᄏᄐᄑᄒ\uffbf\uffc0\uffc1ᅡᅢᅣᅤᅥᅦ\uffc8\uffc9ᅧᅨᅩᅪᅫᅬ\uffd0\uffd1ᅭᅮᅯᅰᅱᅲ" ++
    "\uffd8\uffd9ᅳᅴᅵ\uffdd\uffde\uffdf¢£¬"),
   words 65507 " \u0304§¦§¥§₩§\uffe7§│§←§↑§→§↓§■§○",
   letters 66560 "𐐨𐐩𐐪𐐫𐐬𐐭𐐮𐐯𐐰𐐱𐐲𐐳𐐴𐐵𐐶𐐷𐐸𐐹𐐺𐐻𐐼𐐽𐐾𐐿𐑀𐑁𐑂𐑃𐑄𐑅𐑆𐑇𐑈𐑉𐑊𐑋𐑌𐑍𐑎𐑏",
   letters 66736 "𐓘𐓙𐓚𐓛𐓜𐓝𐓞𐓟𐓠𐓡𐓢𐓣𐓤𐓥𐓦𐓧𐓨𐓩𐓪𐓫𐓬𐓭𐓮𐓯𐓰𐓱𐓲𐓳𐓴𐓵𐓶𐓷𐓸𐓹𐓺𐓻",
   letters 66928 "𐖗𐖘𐖙𐖚𐖛𐖜𐖝𐖞𐖟𐖠𐖡𐕻𐖣𐖤𐖥𐖦𐖧𐖨𐖩𐖪𐖫𐖬𐖭𐖮𐖯𐖰𐖱𐖋𐖳𐖴𐖵𐖶𐖷𐖸𐖹𐖓𐖻𐖼",
   letters 68736 "𐳀𐳁𐳂𐳃𐳄𐳅𐳆𐳇𐳈𐳉𐳊𐳋𐳌𐳍𐳎𐳏𐳐𐳑𐳒𐳓𐳔𐳕𐳖𐳗𐳘𐳙𐳚𐳛𐳜𐳝𐳞𐳟𐳠𐳡𐳢𐳣𐳤𐳥𐳦𐳧𐳨𐳩𐳪𐳫𐳬𐳭𐳮𐳯𐳰𐳱𐳲",
   letters 71840 "𑣀𑣁𑣂𑣃𑣄𑣅𑣆𑣇𑣈𑣉𑣊𑣋𑣌𑣍𑣎𑣏𑣐𑣑𑣒𑣓𑣔𑣕𑣖𑣗𑣘𑣙𑣚𑣛𑣜𑣝𑣞𑣟",
   letters 93760 "𖹠𖹡𖹢𖹣𖹤𖹥𖹦𖹧𖹨𖹩𖹪𖹫𖹬𖹭𖹮𖹯𖹰𖹱𖹲𖹳𖹴𖹵𖹶𖹷𖹸𖹹𖹺𖹻𖹼𖹽𖹾𖹿",
   words 119134 "𝅗𝅥§𝅘𝅥§𝅘𝅥𝅮§𝅘𝅥𝅯§𝅘𝅥𝅰§𝅘𝅥𝅱§𝅘𝅥𝅲",
   words 119227 "𝆹𝅥§𝆺𝅥§𝆹𝅥𝅮§𝆺𝅥𝅮§𝆹𝅥𝅯§𝆺𝅥𝅯",
   letters 119808 (
    "abcdefghijklmnopqrstuvwxyzabcdefghijklmnopqrstuvwxyzabcdefghijklmnopqrstuvwxyzabcdefg𝑕ijkl" ++
    "mnopqrstuvwxyzabcdefghijklmnopqrstuvwxyzabcdefghijklmnopqrstuvwxyza𝒝cd𝒠𝒡g𝒣𝒤jk𝒧𝒨nopq𝒭stuvwx" ++
    "yzabcd𝒺f𝒼hijk𝓁mn𝓄pqrstuvwxyzabcdefghijklmnopqrstuvwxyzabcdefghijklmnopqrstuvwxyzab𝔆defg𝔋𝔌j" ++
    "klmnopq𝔕stuvwxy𝔝abcdefghijklmnopqrstuvwxyzab𝔺defg𝔿ijklm𝕅o𝕇𝕈𝕉stuvwxy𝕑abcdefghijklmnopqrstuv" ++
    "wxyzabcdefghijklmnopqrstuvwxyzabcdefghijklmnopqrstuvwxyzabcdefghijklmnopqrstuvwxyzabcdefgh" ++
    "ijklmnopqrstuvwxyzabcdefghijklmnopqrstuvwxyzabcdefghijklmnopqrstuvwxyzabcdefghijklmnopqrst" ++
    "uvwxyzabcdefghijklmnopqrstuvwxyzabcdefghijklmnopqrstuvwxyzabcdefghijklmnopqrstuvwxyzabcdef" ++
    "ghijklmnopqrstuvwxyzabcdefghijklmnopqrstuvwxyz"),
   letters 120488 (
    "αβγδεζηθικλμνξοπρθστυφχψω∇αβγδεζηθικλμνξοπρσστυφχψω∂εθκφρπαβγδεζηθικλμνξοπρθστυφχψω∇αβγδεζ" ++
    "ηθικλμνξοπρσστυφχψω∂εθκφρπαβγδεζηθικλμνξοπρθστυφχψω∇αβγδεζηθικλμνξοπρσστυφχψω∂εθκφρπαβγδεζ" ++
    "ηθικλμνξοπρθστυφχψω∇αβγδεζηθικλμνξοπρσστυφχψω∂εθκφρπαβγδεζηθικλμνξοπρθστυφχψω∇αβγδεζηθικλμ" ++
    "νξοπρσστυφχψω∂εθκφρπ"),
   letters 120782 "01234567890123456789012345678901234567890123456789",
   letters 125184 "𞤢𞤣𞤤𞤥𞤦𞤧𞤨𞤩𞤪𞤫𞤬𞤭𞤮𞤯𞤰𞤱𞤲𞤳𞤴𞤵𞤶𞤷𞤸𞤹𞤺𞤻𞤼𞤽𞤾𞤿𞥀𞥁𞥂𞥃",
   letters 194560 (
    "丽丸乁𠄢你侮侻倂偺備僧像㒞𠘺免兔兤具𠔜㒹內再𠕋冗冤仌冬况𩇟凵刃㓟刻剆割剷㔕勇勉勤勺包匆北卉卑博即卽卿卿卿𠨬灰及叟𠭣叫叱吆咞吸呈周咢哶唐啓啣善善喙喫喳嗂圖嘆圗噑噴切壮城埴堍型堲報墬𡓤" ++
    "売壷夆多夢奢𡚨𡛪姬娛娧姘婦㛮𡍪嬈嬾嬾𡧈寃寘寧寳𡬘寿将弳尢㞁屠屮峀岍𡷤嵃𡷦嵮嵫嵼巡巢㠯巽帨帽幩㡢𢆃㡼庰庳庶廊𪎒廾𢌱𢌱舁弢弢㣇𣊸𦇚形彫㣣徚忍志忹悁㤺㤜悔𢛔惇慈慌慎慌慺憎憲憤憯懞懲懶成戛" ++
    "扝抱拔捐𢬌挽拼捨掃揤𢯱搢揅掩㨮摩摾撝摷㩬敏敬𣀊旣書晉㬙暑㬈㫤冒冕最暜肭䏙朗望朡杞杓𣏃㭉柺枅桒梅𣑭梎栟椔㮝楂榣槪檨𣚣櫛㰘次𣢧歔㱎歲殟殺殻𣪍𡴋𣫺汎𣲼沿泍汧洖派海流浩浸涅𣴞洴港湮㴳滋滇𣻑" ++
    "淹潮𣽞𣾎濆瀹瀞瀛㶖灊災灷炭𠔥煅𤉣熜䎫爨爵牐𤘈犀犕𤜵𤠔獺王㺬玥㺸㺸瑇瑜瑱璅瓊㼛甤𤰶甾𤲒異𢆟瘐𤾡𤾸𥁄㿼䀈直𥃳𥃲𥄙𥄳眞真真睊䀹瞋䁆䂖𥐝硎碌磌䃣𥘦祖𥚚𥛅福秫䄯穀穊穏𥥼𥪧𥪧窮䈂𥮫篆築䈧𥲀糒䊠" ++
    "糨糣紀𥾆絣䌁緇縂繅䌴𦈨𦉇䍙𦋙罺𦌾羕翺者𦓚𦔣聠𦖨聰𣍟䏕育脃䐋脾媵𦞧𦞵𣎓𣎜舁舄辞䑫芑芋芝劳花芳芽苦𦬼若茝荣莭茣莽菧著荓菊菌菜𦰶𦵫𦳕䔫蓱蓳蔖𧏊蕤𦼬䕝䕡𦾱𧃒䕫虐虜虧虩蚩蚈蜎蛢蝹蜨蝫螆䵗蟡蠁" ++
    "䗹衠衣𧙧裗裞䘵裺㒻𧢮𧥦䚾䛇誠諭變豕𧲨貫賁贛起𧼯𠠄跋趼跰𠣞軔輸𨗒𨗭邔郱鄑𨜮鄛鈸鋗鋘鉼鏹鐕𨯺開䦕閷𨵷䧦雃嶲霣𩅅𩈚䩮䩶韠𩐊䪲𩒖頋頋頩𩖶飢䬳餩馧駂駾䯎𩬰鬒鱀鳽䳎䳭鵧𪃎䳸𪄅𪈎𪊑麻䵖黹黾鼅鼏鼖" ++
    "鼻𪘀")]

def foldBlocks : List FoldBlock := foldBlocks1 ++ foldBlocks2 ++ foldBlocks3

/-- What a character becomes: itself, unless a block tells otherwise. -/
def foldImage (c : Char) : List Char := (foldBlocks.findSome? (·.image? c.toNat)).getD [c]

end WideColumn.Text

set_option autoImplicit false

namespace TaggedBlock.Brotli

-- The words of the format's dictionary in hexadecimal, the shortest ones first.
def writtenWords : String := "
  74696d65646f776e6c6966656c6566746261636b636f64656461746173686f776f6e6c7973697465636974796f70656e6a
  7573746c696b6566726565776f726b74657874796561726f766572626f64796c6f7665666f726d626f6f6b706c61796c69
  76656c696e6568656c70686f6d65736964656d6f7265776f72646c6f6e677468656d7669657766696e6470616765646179
  7366756c6c686561647465726d656163686172656166726f6d747275656d61726b61626c6575706f6e6869676864617465
  6c616e646e6577736576656e6e65787463617365626f7468706f7374757365646d61646568616e6468657265776861746e
  616d654c696e6b626c6f6773697a656261736568656c646d616b656d61696e757365722729202b686f6c64656e64737769
  74684e65777372656164776572657369676e74616b656861766567616d657365656e63616c6c7061746877656c6c706c75
  736d656e7566696c6d706172746a6f696e746869736c697374676f6f646e65656477617973776573746a6f62736d696e64
  616c736f6c6f676f72696368757365736c6173747465616d61726d79666f6f646b696e6777696c6c656173747761726462
  65737466697265506167656b6e6f77617761792e706e676d6f76657468616e6c6f61646769766573656c666e6f74656d75
  6368666565646d616e79726f636b69636f6e6f6e63656c6f6f6b6869646564696564486f6d6572756c65686f7374616a61
  78696e666f636c75626c6177736c65737368616c66736f6d65737563687a6f6e65313030256f6e65736361726554696d65
  72616365626c7565666f75727765656b66616365686f706567617665686172646c6f73747768656e7061726b6b65707470
  61737373686970726f6f6d48544d4c706c616e54797065646f6e65736176656b656570666c61676c696e6b736f6c646669
  7665746f6f6b72617465746f776e6a756d70746875736461726b6361726466696c6566656172737461796b696c6c746861
  7466616c6c6175746f657665722e636f6d74616c6b73686f70766f7465646565706d6f6465726573747475726e626f726e
  62616e6466656c6c726f736575726c28736b696e726f6c65636f6d6561637473616765736d656574676f6c642e6a706769
  74656d7661727966656c747468656e73656e6464726f7056696577636f7079312e30223c2f613e73746f70656c73656c69
  6573746f75727061636b2e676966706173746373733f677261796d65616e2667743b7269646573686f746c617465736169
  64726f6164766172206665656c6a6f686e7269636b706f7274666173742755412d646561643c2f623e706f6f7262696c6c
  74797065552e532e776f6f646d7573743270783b496e666f72616e6b7769646577616e7477616c6c6c6561645b305d3b70
  61756c776176657375726524282723776169746d61737361726d73676f65736761696e6c616e6770616964212d2d206c6f
  636b756e6974726f6f7477616c6b6669726d77696665786d6c22736f6e6774657374323070786b696e64726f7773746f6f
  6c666f6e746d61696c73616665737461726d617073636f72657261696e666c6f77626162797370616e736179733470783b
  3670783b61727473666f6f747265616c77696b696865617473746570747269706f72672f6c616b657765616b746f6c6446
  6f726d6361737466616e7362616e6b7665727972756e736a756c797461736b3170783b676f616c67726577736c6f776564
  676569643d22736574733570783b2e6a733f3430707869662028736f6f6e736561746e6f6e65747562657a65726f73656e
  747265656466616374696e746f676966746861726d3138707863616d6568696c6c626f6c647a6f6f6d766f696465617379
  72696e6766696c6c7065616b696e6974636f73743370783b6a61636b7461677362697473726f6c6c656469746b6e65776e
  6561723c212d2d67726f774a534f4e647574794e616d6573616c65796f75206c6f74737061696e6a617a7a636f6c646579
  6573666973687777772e7269736b7461627370726576313070787269736532357078426c756564696e673330302c62616c
  6c666f72646561726e77696c64626f782e666169726c61636b76657273706169726a756e6574656368696628217069636b
  6576696c242822237761726d6c6f7264646f657370756c6c2c30303069646561647261776875676573706f7466756e6462
  75726e6872656663656c6c6b6579737469636b686f75726c6f73736675656c31327078737569746465616c525353226167
  656467726579474554226561736561696d736769726c616964733870783b6e617679677269647469707323393939776172
  736c61647963617273293b207d7068703f68656c6c74616c6c77686f6d7a683ae52a2f0d0a2031303068616c6c2e0a0a41
  3770783b70757368636861743070783b637265772a2f3c2f6861736837357078666c6174726172652026262074656c6c63
  616d706f6e746f6c6169646d697373736b697074656e7466696e656d616c6567657473706c6f743430302c0d0a0d0a636f
  6f6c666565742e7068703c62723e657269636d6f73746775696462656c6c64657363686169726d61746861746f6d2f696d
  67262338326c75636b63656e743030303b74696e79676f6e6568746d6c73656c6c64727567465245456e6f64656e69636b
  3f69643d6c6f73656e756c6c7661737477696e64525353207765617272656c796265656e73616d6564756b656e61736163
  6170657769736867756c665432333a68697473736c6f74676174656b69636b626c757274686579313570782727293b293b
  223e6d73696577696e7362697264736f7274626574617365656b5431383a6f726473747265656d616c6c36307078666172
  6de2809973626f79735b305d2e27293b22504f5354626561726b696473293b7d7d6d61727974656e6428554b2971756164
  7a683ae62d73697a2d2d2d2d70726f7027293b0d6c6966745431393a76696365616e6479646562743e525353706f6f6c6e
  65636b626c6f775431363a646f6f726576616c5431373a6c6574736661696c6f72616c706f6c6c6e6f7661636f6c736765
  6e6520e28094736f6674726f6d6574696c6c726f73733c68333e706f75726661646570696e6b3c74723e6d696e69297c21
  286d696e657a683ae862617273686561723030293b6d696c6b202d2d3e69726f6e667265646469736b77656e74736f696c
  707574732f6a732f686f6c795432323a4953424e5432303a6164616d736565733c68323e6a736f6e272c2027636f6e7454
  32313a205253536c6f6f70617369616d6f6f6e3c2f703e736f756c4c494e45666f7274636172745431343a3c68313e3830
  7078212d2d3c3970783b5430343a6d696b653a34365a6e696365696e6368596f726b726963657a683ae42729293b707572
  656d61676570617261746f6e65626f6e643a33375a5f6f665f275d293b3030302c7a683ae774616e6b79617264626f776c
  627573683a35365a4a617661333070780a7c7d0a254333253a33345a6a656666455850496361736876697361676f6c6673
  6e6f777a683ae9717565722e6373737369636b6d6561746d696e2e62696e6464656c6c686972657069637372656e743a33
  365a485454502d323031666f746f776f6c66454e442078626f783a35345a424f44596469636b3b0a7d0a657869743a3335
  5a7661727362656174277d293b646965743939393b616e6e657d7d3c2f5b695d2e4c616e676b6dc2b277697265746f7973
  616464737365616c616c65783b0a097d6563686f6e696e652e6f726730303529746f6e796a65777373616e646c65677372
  6f6f66303030292032303077696e6567656172646f6773626f6f74676172796375747374796c6574656d7074696f6e2e78
  6d6c636f636b67616e672428272e3530707850682e446d697363616c616e6c6f616e6465736b6d696c657279616e756e69
  7864697363293b7d0a64757374636c6970292e0a0a373070782d32303044564473375d3e3c7461706564656d6f692b2b29
  776167656575726f7068696c6f707473686f6c65464151736173696e2d3236546c6162737065747355524c2062756c6b63
  6f6f6b3b7d0d0a484541445b305d29616262726a75616e283139386c6573687477696e3c2f693e736f6e79677579736675
  636b706970657c2d0a21303032296e646f775b315d3b5b5d3b0a4c6f672073616c740d0a090962616e677472696d626174
  68297b0d0a303070780a7d293b6b6f3aec6665657361643e0d733a2f2f205b5d3b746f6c6c706c756728297b0a7b0d0a20
  2e6a7327323030706475616c626f61742e4a5047293b0a7d71756f74293b0a0a27293b0a0d0a7d0d323031343230313532
  30313632303137323031383230313932303230323032313230323232303233323032343230323532303236323032373230
  32383230323932303330323033313230333232303333323033343230333532303336323033373230313332303132323031
  31323031303230303932303038323030373230303632303035323030343230303332303032323030313230303031393939
  31393938313939373139393631393935313939343139393331393932313939313139393031393839313938383139383731
  39383631393835313938343139383331393832313938313139383031393739313937383139373731393736313937353139
  37343139373331393732313937313139373031393639313936383139363731393636313936353139363431393633313936
  32313936313139363031393539313935383139353731393536313935353139353431393533313935323139353131393530
  3130303031303234313339343030303039393939636f6d6f6dc3a17365737465657374617065726f746f646f6861636563
  61646161c3b16f6269656e64c3ad616173c3ad766964616361736f6f74726f666f726f736f6c6f6f7472616375616c6469
  6a6f7369646f6772616e7469706f74656d6164656265616c676f7175c3a96573746f6e61646174726573706f636f636173
  6162616a6f746f646173696e6f6167756170756573756e6f73616e7465646963656c756973656c6c616d61796f7a6f6e61
  616d6f727069736f6f627261636c6963656c6c6f64696f73686f726163617369d0b7d0b0d0bdd0b0d0bed0bcd180d0b0d1
  80d183d182d0b0d0bdd0b5d0bfd0bed0bed182d0b8d0b7d0bdd0bed0b4d0bed182d0bed0b6d0b5d0bed0bdd0b8d185d09d
  d0b0d0b5d0b5d0b1d18bd0bcd18bd092d18bd181d0bed0b2d18bd0b2d0bed09dd0bed0bed0b1d09fd0bed0bbd0b8d0bdd0
  b8d0a0d0a4d09dd0b5d09cd18bd182d18bd09ed0bdd0b8d0bcd0b4d0b0d097d0b0d094d0b0d09dd183d09ed0b1d182d0b5
  d098d0b7d0b5d0b9d0bdd183d0bcd0bcd0a2d18bd183d0b6d981d98ad8a3d986d985d8a7d985d8b9d983d984d8a3d988d8
  b1d8afd98ad8a7d981d989d987d988d984d985d984d983d8a7d988d984d987d8a8d8b3d8a7d984d8a5d986d987d98ad8a3
  d98ad982d8afd987d984d8abd985d8a8d987d984d988d984d98ad8a8d984d8a7d98ad8a8d983d8b4d98ad8a7d985d8a3d9
  85d986d8aad8a8d98ad984d986d8add8a8d987d985d985d8b4d988d8b46669727374766964656f6c69676874776f726c64
  6d656469617768697465636c6f7365626c61636b7269676874736d616c6c626f6f6b73706c6163656d757369636669656c
  646f72646572706f696e7476616c75656c6576656c7461626c65626f617264686f75736567726f7570776f726b73796561
  72737374617465746f646179776174657273746172747374796c656465617468706f77657270686f6e656e696768746572
  726f72696e70757461626f75747465726d737469746c65746f6f6c736576656e746c6f63616c74696d65736c6172676577
  6f72647367616d657373686f72747370616365666f637573636c6561726d6f64656c626c6f636b6775696465726164696f
  7368617265776f6d656e616761696e6d6f6e6579696d6167656e616d6573796f756e676c696e65736c61746572636f6c6f
  72677265656e66726f6e7426616d703b7761746368666f726365707269636572756c6573626567696e6166746572766973
  69746973737565617265617362656c6f77696e646578746f74616c686f7572736c6162656c7072696e7470726573736275
  696c746c696e6b73737065656473747564797472616465666f756e6473656e7365756e64657273686f776e666f726d7372
  616e676561646465647374696c6c6d6f76656474616b656e61626f7665666c61736866697865646f6674656e6f74686572
  7669657773636865636b6c6567616c72697665726974656d73717569636b736861706568756d616e6578697374676f696e
  676d6f766965746869726462617369637065616365737461676577696474686c6f67696e696465617377726f7465706167
  65737573657273647269766573746f7265627265616b736f757468766f69636573697465736d6f6e746877686572656275
  696c6477686963686561727468666f72756d746872656573706f72747061727479436c69636b6c6f7765726c6976657363
  6c6173736c61796572656e74727973746f72797573616765736f756e64636f757274796f7572206269727468706f707570
  74797065736170706c79496d6167656265696e6775707065726e6f746573657665727973686f77736d65616e7365787472
  616d61746368747261636b6b6e6f776e6561726c79626567616e737570657270617065726e6f7274686c6561726e676976
  656e6e616d6564656e6465645465726d73706172747347726f75706272616e647573696e67776f6d616e66616c73657265
  616479617564696f74616b65737768696c652e636f6d2f6c6976656463617365736461696c796368696c6467726561746a
  7564676574686f7365756e6974736e6576657262726f6164636f617374636f7665726170706c6566696c65736379636c65
  7363656e65706c616e73636c69636b7772697465717565656e7069656365656d61696c6672616d656f6c64657270686f74
  6f6c696d69746361636865636976696c7363616c65656e7465727468656d657468657265746f756368626f756e64726f79
  616c61736b656477686f6c6573696e636573746f636b206e616d6566616974686865617274656d7074796f666665727363
  6f70656f776e65646d69676874616c62756d7468696e6b626c6f6f6461727261796d616a6f72747275737463616e6f6e75
  6e696f6e636f756e7476616c696473746f6e655374796c654c6f67696e68617070796f636375726c6566743a6672657368
  717569746566696c6d7367726164656e65656473757262616e66696768746261736973686f7665726175746f3b726f7574
  652e68746d6c6d6978656466696e616c596f757220736c696465746f70696362726f776e616c6f6e65647261776e73706c
  69747265616368526967687464617465736d6172636871756f7465676f6f64734c696e6b73646f7562746173796e637468
  756d62616c6c6f776368696566796f7574686e6f76656c313070783b7365727665756e74696c68616e6473436865636b53
  7061636571756572796a616d6573657175616c7477696365302c303030537461727470616e656c736f6e6773726f756e64
  65696768747368696674776f727468706f7374736c656164737765656b7361766f696474686573656d696c6573706c616e
  65736d617274616c706861706c616e746d61726b737261746573706c617973636c61696d73616c65737465787473737461
  727377726f6e673c2f68333e7468696e672e6f72672f6d756c74696865617264506f7765727374616e64746f6b656e736f
  6c696428746869736272696e6773686970737374616666747269656463616c6c7366756c6c7966616374736167656e7454
  686973202f2f2d2d3e61646d696e65677970744576656e74313570783b456d61696c747275652263726f73737370656e74
  626c6f6773626f78223e6e6f7465646c656176656368696e6173697a657367756573743c2f68343e726f626f7468656176
  79747275652c736576656e6772616e646372696d657369676e73617761726564616e636570686173653e3c212d2d656e5f
  5553262333393b32303070785f6e616d656c6174696e656e6a6f79616a61782e6174696f6e736d697468552e532e20686f
  6c64737065746572696e6469616e6176223e636861696e73636f7265636f6d6573646f696e677072696f72536861726531
  39393073726f6d616e6c697374736a6170616e66616c6c73747269616c6f776e657261677265653c2f68323e6162757365
  616c6572746f70657261222d2f2f57636172647368696c6c737465616d7350686f746f7472757468636c65616e2e706870
  3f7361696e746d6574616c6c6f7569736d65616e7470726f6f666272696566726f77223e67656e7265747275636b6c6f6f
  6b7356616c75654672616d652e6e65742f2d2d3e0a3c747279207b0a766172206d616b6573636f737473706c61696e6164
  756c747175657374747261696e6c61626f7268656c707363617573656d616769636d6f746f72746865697232353070786c
  656173747374657073436f756e74636f756c64676c617373736964657366756e6473686f74656c61776172646d6f757468
  6d6f766573706172697367697665736475746368746578617366727569746e756c6c2c7c7c5b5d3b746f70223e0a3c212d
  2d504f5354226f6365616e3c62722f3e666c6f6f72737065616b64657074682073697a6562616e6b736361746368636861
  7274323070783b616c69676e6465616c73776f756c64353070783b75726c3d227061726b736d6f7573654d6f7374202e2e
  2e3c2f616d6f6e67627261696e626f6479206e6f6e653b6261736564636172727964726166747265666572706167655f68
  6f6d652e6d6574657264656c6179647265616d70726f76656a6f696e743c2f74723e64727567733c212d2d20617072696c
  696465616c616c6c656e6578616374666f727468636f6465736c6f67696356696577207365656d73626c616e6b706f7274
  73202832303073617665645f6c696e6b676f616c736772616e74677265656b686f6d657372696e67737261746564333070
  783b77686f7365706172736528293b2220426c6f636b6c696e75786a6f6e6573706978656c27293b223e293b6966282d6c
  6566746461766964686f727365466f6375737261697365626f786573547261636b656d656e743c2f656d3e626172223e2e
  7372633d746f776572616c743d226361626c6568656e7279323470783b73657475706974616c7973686172706d696e6f72
  746173746577616e7473746869732e7265736574776865656c6769726c732f6373732f313030253b636c75627373747566
  666269626c65766f74657320313030306b6f7265617d293b0d0a62616e647371756575653d207b7d3b383070783b636b69
  6e677b0d0a09096168656164636c6f636b69726973686c696b6520726174696f7374617473466f726d227961686f6f295b
  305d3b41626f757466696e64733c2f68313e64656275677461736b7355524c203d63656c6c737d2928293b313270783b70
  72696d6574656c6c737475726e7330783630302e6a706722737061696e626561636874617865736d6963726f616e67656c
  2d2d3e3c2f676966747373746576652d6c696e6b626f64792e7d293b0a096d6f756e7420283139394641513c2f726f6765
  726672616e6b436c617373323870783b66656564733c68313e3c73636f74747465737473323270783b6472696e6b29207c
  7c206c657769737368616c6c233033393b20666f72206c6f7665647761737465303070783b6a613ae38273696d6f6e3c66
  6f6e747265706c796d65657473756e746572636865617074696768744272616e642920213d206472657373636c69707372
  6f6f6d736f6e6b65796d6f62696c6d61696e2e4e616d6520706c61746566756e6e797472656573636f6d2f22312e6a7067
  776d6f6465706172616d53544152546c65667420696464656e2c20323031293b0a7d0a666f726d2e766972757363686169
  727472616e73776f72737450616765736974696f6e70617463683c212d2d0a6f2d6361636669726d73746f7572732c3030
  3020617369616e692b2b297b61646f626527295b305d69643d3130626f74683b6d656e75202e322e6d692e706e67226b65
  76696e636f6163684368696c646272756365322e6a706755524c292b2e6a70677c7375697465736c696365686172727931
  32302220737765657474723e0d0a6e616d653d646965676f706167652073776973732d2d3e0a0a236666663b223e4c6f67
  2e636f6d22747265617473686565742920262620313470783b736c6565706e74656e7466696c65646a613ae38369643d22
  634e616d6522776f72736573686f74732d626f782d64656c74610a266c743b62656172733a34385a3c646174612d727572
  616c3c2f613e207370656e6462616b657273686f70733d2022223b706870223e6374696f6e313370783b627269616e6865
  6c6c6f73697a653d6f3d253246206a6f696e6d617962653c696d6720696d67223e2c20666a73696d67222022295b305d4d
  546f704254797065226e65776c7944616e736b637a656368747261696c6b6e6f77733c2f68353e666171223e7a682d636e
  3130293b0a2d3122293b747970653d626c7565737472756c7964617669732e6a73273b3e0d0a3c21737465656c20796f75
  2068323e0d0a666f726d206a6573757331303025206d656e752e0d0a090d0a77616c65737269736b73756d656e74646469
  6e67622d6c696b74656163686769662220766567617364616e736b6565737469736871697073756f6d69736f6272656465
  736465656e747265746f646f73707565646561c3b16f73657374c3a17469656e6568617374616f74726f73706172746564
  6f6e64656e7565766f6861636572666f726d616d69736d6f6d656a6f726d756e646f617175c3ad64c3ad617373c3b36c6f
  61797564616665636861746f64617374616e746f6d656e6f736461746f736f74726173736974696f6d7563686f61686f72
  616c756761726d61796f726573746f73686f72617374656e6572616e746573666f746f7365737461737061c3ad736e7565
  766173616c7564666f726f736d6564696f717569656e6d65736573706f6465726368696c65736572c3a176656365736465
  6369726a6f73c3a9657374617276656e7461677275706f686563686f656c6c6f7374656e676f616d69676f636f7361736e
  6976656c67656e74656d69736d6161697265736a756c696f74656d617368616369616661766f726a756e696f6c69627265
  70756e746f6275656e6f6175746f72616272696c6275656e61746578746f6d61727a6f73616265726c697374616c756567
  6f63c3b36d6f656e65726f6a7565676f706572c3ba68616265726573746f796e756e63616d756a657276616c6f72667565
  72616c6962726f6775737461696775616c766f746f736361736f736775c3ad61707565646f736f6d6f73617669736f7573
  746564646562656e6e6f636865627573636166616c74616575726f737365726965646963686f637572736f636c61766563
  617361736c65c3b36e706c617a6f6c6172676f6f62726173766973746161706f796f6a756e746f7472617461766973746f
  637265617263616d706f68656d6f7363696e636f636172676f7069736f736f7264656e686163656ec3a172656164697363
  6f706564726f63657263617075656461706170656c6d656e6f72c3ba74696c636c61726f6a6f72676563616c6c65706f6e
  657274617264656e616469656d617263617369677565656c6c61737369676c6f636f6368656d6f746f736d61647265636c
  617365726573746f6e69c3b16f7175656461706173617262616e636f68696a6f737669616a657061626c6fc3a973746576
  69656e657265696e6f64656a6172666f6e646f63616e616c6e6f7274656c657472616361757361746f6d61726d616e6f73
  6c756e65736175746f7376696c6c6176656e646f70657361727469706f7374656e67616d6172636f6c6c65766170616472
  65756e69646f76616d6f737a6f6e6173616d626f7362616e64616d61726961616275736f6d75636861737562697272696f
  6a617669766972677261646f6368696361616c6cc3ad6a6f76656e6469636861657374616e74616c657373616c69727375
  656c6f7065736f7366696e65736c6c616d61627573636fc3a97374616c6c6567616e6567726f706c617a6168756d6f7270
  616761726a756e7461646f626c6569736c6173626f6c73616261c3b16f6861626c616c75636861c381726561646963656e
  6a756761726e6f74617376616c6c65616c6cc3a16361726761646f6c6f726162616a6f657374c3a9677573746f6d656e74
  656d6172696f6669726d61636f73746f6669636861706c617461686f67617261727465736c65796573617175656c6d7573
  656f6261736573706f636f736d697461646369656c6f636869636f6d6965646f67616e617273616e746f65746170616465
  626573706c61796172656465737369657465636f727465636f7265616475646173646573656f7669656a6f646573656161
  677561732671756f743b646f6d61696e636f6d6d6f6e7374617475736576656e74736d617374657273797374656d616374
  696f6e62616e6e657272656d6f76657363726f6c6c757064617465676c6f62616c6d656469756d66696c7465726e756d62
  65726368616e6765726573756c747075626c696373637265656e63686f6f73656e6f726d616c74726176656c6973737565
  73736f75726365746172676574737072696e676d6f64756c656d6f62696c6573776974636870686f746f73626f72646572
  726567696f6e697473656c66736f6369616c616374697665636f6c756d6e7265636f7264666f6c6c6f777469746c653e65
  69746865726c656e67746866616d696c79667269656e646c61796f7574617574686f726372656174657265766965777375
  6d6d6572736572766572706c61796564706c61796572657870616e64706f6c696379666f726d6174646f75626c65706f69
  6e7473736572696573706572736f6e6c6976696e6764657369676e6d6f6e746873666f72636573756e6971756577656967
  687470656f706c65656e657267796e6174757265736561726368666967757265686176696e67637573746f6d6f66667365
  746c657474657277696e646f777375626d697472656e64657267726f75707375706c6f61646865616c74686d6574686f64
  766964656f737363686f6f6c667574757265736861646f7764656261746576616c7565734f626a6563746f746865727372
  69676874736c65616775656368726f6d6573696d706c656e6f74696365736861726564656e64696e67736561736f6e7265
  706f72746f6e6c696e65737175617265627574746f6e696d61676573656e61626c656d6f76696e676c617465737477696e
  7465724672616e6365706572696f647374726f6e677265706561744c6f6e646f6e64657461696c666f726d656464656d61
  6e64736563757265706173736564746f67676c65706c616365736465766963657374617469636369746965737374726561
  6d79656c6c6f7761747461636b737472656574666c6967687468696464656e696e666f223e6f70656e656475736566756c
  76616c6c65796361757365736c65616465727365637265747365636f6e6464616d61676573706f72747365786365707472
  6174696e677369676e65647468696e67736566666563746669656c64737374617465736f666669636576697375616c6564
  69746f72766f6c756d655265706f72746d757365756d6d6f76696573706172656e746163636573736d6f73746c796d6f74
  686572222069643d226d61726b657467726f756e646368616e63657375727665796265666f726573796d626f6c6d6f6d65
  6e747370656563686d6f74696f6e696e736964656d617474657243656e7465726f626a6563746578697374736d6964646c
  654575726f706567726f7774686c65676163796d616e6e6572656e6f756768636172656572616e737765726f726967696e
  706f7274616c636c69656e7473656c65637472616e646f6d636c6f736564746f70696373636f6d696e676661746865726f
  7074696f6e73696d706c7972616973656465736361706563686f73656e636875726368646566696e65726561736f6e636f
  726e65726f75747075746d656d6f7279696672616d65706f6c6963656d6f64656c734e756d626572647572696e676f6666
  6572737374796c65736b696c6c65646c697374656463616c6c656473696c7665726d617267696e64656c65746562657474
  657262726f7773656c696d697473476c6f62616c73696e676c6577696467657463656e7465726275646765746e6f777261
  70637265646974636c61696d73656e67696e6573616665747963686f6963657370697269742d7374796c65737072656164
  6d616b696e676e6565646564727573736961706c65617365657874656e7453637269707462726f6b656e616c6c6f777363
  6861726765646976696465666163746f726d656d6265722d62617365647468656f7279636f6e66696761726f756e64776f
  726b656468656c706564436875726368696d7061637473686f756c64616c776179736c6f676f2220626f74746f6d6c6973
  74223e297b766172207072656669786f72616e67654865616465722e7075736828636f75706c6567617264656e62726964
  67656c61756e636852657669657774616b696e67766973696f6e6c6974746c65646174696e67427574746f6e6265617574
  797468656d6573666f72676f74536561726368616e63686f72616c6d6f73746c6f616465644368616e676572657475726e
  737472696e6772656c6f61644d6f62696c65696e636f6d65737570706c79536f757263656f726465727376696577656426
  6e6273703b636f7572736541626f75742069736c616e643c68746d6c20636f6f6b69656e616d653d22616d617a6f6e6d6f
  6465726e616476696365696e3c2f613e3a20546865206469616c6f67686f75736573424547494e204d657869636f737461
  72747363656e747265686569676874616464696e6749736c616e64617373657473456d706972655363686f6f6c6566666f
  72746469726563746e6561726c796d616e75616c53656c6563742e0a0a4f6e656a6f696e65646d656e75223e5068696c69
  7061776172647368616e646c65696d706f72744f6666696365726567617264736b696c6c736e6174696f6e53706f727473
  6465677265657765656b6c792028652e672e626568696e64646f63746f726c6f67676564756e697465643c2f623e3c2f62
  6567696e73706c616e747361737369737461727469737469737375656433303070787c63616e6164616167656e63797363
  68656d6572656d61696e4272617a696c73616d706c656c6f676f223e6265796f6e642d7363616c65616363657074736572
  7665646d6172696e65466f6f74657263616d6572613c2f68313e0a5f666f726d226c656176657373747265737322202f3e
  0d0a2e67696622206f6e6c6f61646c6f616465724f78666f72647369737465727375727669766c697374656e66656d616c
  6544657369676e73697a653d2261707065616c74657874223e6c6576656c737468616e6b73686967686572666f72636564
  616e696d616c616e796f6e65416672696361616772656564726563656e7450656f706c653c6272202f3e776f6e64657270
  72696365737475726e65647c7c207b7d3b6d61696e223e696e6c696e6573756e64617977726170223e6661696c65646365
  6e7375736d696e757465626561636f6e71756f74657331353070787c65737461746572656d6f7465656d61696c226c696e
  6b656472696768743b7369676e616c666f726d616c312e68746d6c7369676e75707072696e6365666c6f61743a2e706e67
  2220666f72756d2e416363657373706170657273736f756e6473657874656e64486569676874736c696465725554462d38
  2226616d703b204265666f72652e205769746873747564696f6f776e6572736d616e61676570726f6669746a5175657279
  616e6e75616c706172616d73626f7567687466616d6f7573676f6f676c656c6f6e676572692b2b29207b69737261656c73
  6179696e67646563696465686f6d65223e686561646572656e737572656272616e6368706965636573626c6f636b3b7374
  61746564746f70223e3c726163696e67726573697a652d2d2667743b70616369747973657875616c6275726561752e6a70
  67222031302c3030306f627461696e7469746c6573616d6f756e742c20496e632e636f6d6564796d656e7522206c797269
  6373746f6461792e696e64656564636f756e74795f6c6f676f2e46616d696c796c6f6f6b65644d61726b65746c73652069
  66506c617965727475726b6579293b76617220666f72657374676976696e676572726f7273446f6d61696e7d656c73657b
  696e73657274426c6f673c2f666f6f7465726c6f67696e2e6661737465726167656e74733c626f64792031307078203070
  7261676d616672696461796a756e696f72646f6c6c6172706c61636564636f76657273706c7567696e352c303030207061
  6765223e626f73746f6e2e74657374286176617461727465737465645f636f756e74666f72756d73736368656d61696e64
  65782c66696c6c6564736861726573726561646572616c657274286170706561725375626d69746c696e65223e626f6479
  223e0a2a2054686554686f756768736565696e676a65727365794e6577733c2f766572696679657870657274696e6a7572
  7977696474683d436f6f6b69655354415254206163726f73735f696d6167657468726561646e6174697665706f636b6574
  626f78223e0a53797374656d20446176696463616e6365727461626c657370726f766564417072696c207265616c6c7964
  72697665726974656d223e6d6f7265223e626f61726473636f6c6f727363616d7075736669727374207c7c205b5d3b6d65
  6469612e67756974617266696e69736877696474683a73686f7765644f74686572202e7068702220617373756d656c6179
  65727377696c736f6e73746f72657372656c69656673776564656e437573746f6d656173696c7920796f75722053747269
  6e670a0a5768696c7461796c6f72636c6561723a7265736f72746672656e636874686f7567682229202b20223c626f6479
  3e627579696e676272616e64734d656d6265726e616d65223e6f7070696e67736563746f723570783b223e767370616365
  706f737465726d616a6f7220636f666665656d617274696e6d617475726568617070656e3c2f6e61763e6b616e7361736c
  696e6b223e496d616765733d66616c73657768696c65206873706163653026616d703b200a0a496e2020706f776572506f
  6c736b692d636f6c6f726a6f7264616e426f74746f6d5374617274202d636f756e74322e68746d6c6e657773223e30312e
  6a70674f6e6c696e652d72696768746d696c6c657273656e696f724953424e2030302c3030302067756964657376616c75
  6529656374696f6e7265706169722e786d6c2220207269676874732e68746d6c2d626c6f636b7265674578703a686f7665
  7277697468696e76697267696e70686f6e65733c2f74723e0d7573696e67200a09766172203e27293b0a093c2f74643e0a
  3c2f74723e0a62616861736162726173696c67616c65676f6d6167796172706f6c736b69737270736b69d8b1d8afd988e4
  b8ade69687e7ae80e4bd93e7b981e9ab94e4bfa1e681afe4b8ade59bbde68891e4bbace4b880e4b8aae585ace58fb8e7ae
  a1e79086e8aebae59d9be58fafe4bba5e69c8de58aa1e697b6e997b4e4b8aae4babae4baa7e59381e887aae5b7b1e4bc81
  e4b89ae69fa5e79c8be5b7a5e4bd9ce88194e7b3bbe6b2a1e69c89e7bd91e7ab99e68980e69c89e8af84e8aebae4b8ade5
  bf83e69687e7aba0e794a8e688b7e9a696e9a1b5e4bd9ce88085e68a80e69cafe997aee9a298e79bb8e585b3e4b88be8bd
  bde6909ce7b4a2e4bdbfe794a8e8bdafe4bbb6e59ca8e7babfe4b8bbe9a298e8b584e69699e8a786e9a291e59b9ee5a48d
  e6b3a8e5868ce7bd91e7bb9ce694b6e8978fe58685e5aeb9e68ea8e88d90e5b882e59cbae6b688e681afe7a9bae997b4e5
  8f91e5b883e4bb80e4b988e5a5bde58f8be7949fe6b4bbe59bbee78987e58f91e5b195e5a682e69e9ce6898be69cbae696
  b0e997bbe69c80e696b0e696b9e5bc8fe58c97e4baace68f90e4be9be585b3e4ba8ee69bb4e5a49ae8bf99e4b8aae7b3bb
  e7bb9fe79fa5e98193e6b8b8e6888fe5b9bfe5918ae585b6e4bb96e58f91e8a1a8e5ae89e585a8e7acace4b880e4bc9ae5
  9198e8bf9be8a18ce782b9e587bbe78988e69d83e794b5e5ad90e4b896e7958ce8aebee8aea1e5858de8b4b9e69599e882
  b2e58aa0e585a5e6b4bbe58aa8e4bb96e4bbace59586e59381e58d9ae5aea2e78eb0e59ca8e4b88ae6b5b7e5a682e4bd95
  e5b7b2e7bb8fe79599e8a880e8afa6e7bb86e7a4bee58cbae799bbe5bd95e69cace7ab99e99c80e8a681e4bbb7e6a0bce6
  94afe68c81e59bbde99985e993bee68ea5e59bbde5aeb6e5bbbae8aebee69c8be58f8be99885e8afbbe6b395e5be8be4bd
  8de7bdaee7bb8fe6b58ee98089e68ba9e8bf99e6a0b7e5bd93e5898de58886e7b1bbe68e92e8a18ce59ba0e4b8bae4baa4
  e69893e69c80e5908ee99fb3e4b990e4b88de883bde9809ae8bf87e8a18ce4b89ae7a791e68a80e58fafe883bde8aebee5
  a487e59088e4bd9ce5a4a7e5aeb6e7a4bee4bc9ae7a094e7a9b6e4b893e4b89ae585a8e983a8e9a1b9e79baee8bf99e987
  8ce8bf98e698afe5bc80e5a78be68385e586b5e794b5e88491e69687e4bbb6e59381e7898ce5b8aee58aa9e69687e58c96
  e8b584e6ba90e5a4a7e5ada6e5ada6e4b9a0e59cb0e59d80e6b58fe8a788e68a95e8b584e5b7a5e7a88be8a681e6b182e6
  808ee4b988e697b6e58099e58a9fe883bde4b8bbe8a681e79baee5898de8b584e8aeafe59f8ee5b882e696b9e6b395e794
  b5e5bdb1e68b9be88198e5a3b0e6988ee4bbbbe4bd95e581a5e5bab7e695b0e68daee7be8ee59bbde6b1bde8bda6e4bb8b
  e7bb8de4bd86e698afe4baa4e6b581e7949fe4baa7e68980e4bba5e794b5e8af9de698bee7a4bae4b880e4ba9be58d95e4
  bd8de4babae59198e58886e69e90e59cb0e59bbee69785e6b8b8e5b7a5e585b7e5ada6e7949fe7b3bbe58897e7bd91e58f
  8be5b896e5ad90e5af86e7a081e9a291e98193e68ea7e588b6e59cb0e58cbae59fbae69cace585a8e59bbde7bd91e4b88a
  e9878de8a681e7acace4ba8ce5969ce6aca2e8bf9be585a5e58f8be68385e8bf99e4ba9be88083e8af95e58f91e78eb0e5
  9fb9e8aeade4bba5e4b88ae694bfe5ba9ce68890e4b8bae78eafe5a283e9a699e6b8afe5908ce697b6e5a8b1e4b990e58f
  91e98081e4b880e5ae9ae5bc80e58f91e4bd9ce59381e6a087e58786e6aca2e8bf8ee8a7a3e586b3e59cb0e696b9e4b880
  e4b88be4bba5e58f8ae8b4a3e4bbbbe68896e88085e5aea2e688b7e4bba3e8a1a8e7a7afe58886e5a5b3e4babae695b0e7
  a081e99480e594aee587bae78eb0e7a6bbe7babfe5ba94e794a8e58897e8a1a8e4b88de5908ce7bc96e8be91e7bb9fe8ae
  a1e69fa5e8afa2e4b88de8a681e69c89e585b3e69cbae69e84e5be88e5a49ae692ade694bee7bb84e7bb87e694bfe7ad96
  e79bb4e68ea5e883bde58a9be69da5e6ba90e69982e99693e79c8be588b0e783ade997a8e585b3e994aee4b893e58cbae9
  9d9ee5b8b8e88bb1e8afade799bee5baa6e5b88ce69c9be7be8ee5a5b3e6af94e8be83e79fa5e8af86e8a784e5ae9ae5bb
  bae8aeaee983a8e997a8e6848fe8a781e7b2bee5bda9e697a5e69cace68f90e9ab98e58f91e8a880e696b9e99da2e59fba
  e98791e5a484e79086e69d83e99990e5bdb1e78987e993b6e8a18ce8bf98e69c89e58886e4baabe789a9e59381e7bb8fe8
  90a5e6b7bbe58aa0e4b893e5aeb6e8bf99e7a78de8af9de9a298e8b5b7e69da5e4b89ae58aa1e585ace5918ae8aeb0e5bd
  95e7ae80e4bb8be8b4a8e9878fe794b7e4babae5bdb1e5938de5bc95e794a8e68aa5e5918ae983a8e58886e5bfabe9809f
  e592a8e8afa2e697b6e5b09ae6b3a8e6848fe794b3e8afb7e5ada6e6a0a1e5ba94e8afa5e58e86e58fb2e58faae698afe8
  bf94e59b9ee8b4ade4b9b0e5908de7a7b0e4b8bae4ba86e68890e58a9fe8afb4e6988ee4be9be5ba94e5ada9e5ad90e4b8
  93e9a298e7a88be5ba8fe4b880e888ace69c83e593a1e58faae69c89e585b6e5ae83e4bf9de68aa4e8808ce4b894e4bb8a
  e5a4a9e7aa97e58fa3e58aa8e68081e78ab6e68081e789b9e588abe8aea4e4b8bae5bf85e9a1bbe69bb4e696b0e5b08fe8
  afb4e68891e58091e4bd9ce4b8bae5aa92e4bd93e58c85e68bace982a3e4b988e4b880e6a0b7e59bbde58685e698afe590
  a6e6a0b9e68daee794b5e8a786e5ada6e999a2e585b7e69c89e8bf87e7a88be794b1e4ba8ee4babae6898de587bae69da5
  e4b88de8bf87e6ada3e59ca8e6988ee6989fe69585e4ba8be585b3e7b3bbe6a087e9a298e59586e58aa1e8be93e585a5e4
  b880e79bb4e59fbae7a180e69599e5ada6e4ba86e8a7a3e5bbbae7ad91e7bb93e69e9ce585a8e79083e9809ae79fa5e8ae
  a1e58892e5afb9e4ba8ee889bae69cafe79bb8e5868ce58f91e7949fe79c9fe79a84e5bbbae7ab8be7ad89e7baa7e7b1bb
  e59e8be7bb8fe9aa8ce5ae9ee78eb0e588b6e4bd9ce69da5e887aae6a087e7adbee4bba5e4b88be58e9fe5889be697a0e6
  b395e585b6e4b8ade5808be4babae4b880e58887e68c87e58d97e585b3e997ade99b86e59ba2e7acace4b889e585b3e6b3
  a8e59ba0e6ada4e785a7e78987e6b7b1e59cb3e59586e4b89ae5b9bfe5b79ee697a5e69c9fe9ab98e7baa7e69c80e8bf91
  e7bbbce59088e8a1a8e7a4bae4b893e8be91e8a18ce4b8bae4baa4e9809ae8af84e4bbb7e8a789e5be97e7b2bee58d8ee5
  aeb6e5baade5ae8ce68890e6849fe8a789e5ae89e8a385e5be97e588b0e982aee4bbb6e588b6e5baa6e9a39fe59381e899
  bde784b6e8bdace8bdbde68aa5e4bbb7e8aeb0e88085e696b9e6a188e8a18ce694bfe4babae6b091e794a8e59381e4b89c
  e8a5bfe68f90e587bae98592e5ba97e784b6e5908ee4bb98e6acbee783ade782b9e4bba5e5898de5ae8ce585a8e58f91e5
  b896e8aebee7bdaee9a286e5afbce5b7a5e4b89ae58cbbe999a2e79c8be79c8be7bb8fe585b8e58e9fe59ba0e5b9b3e58f
  b0e59084e7a78de5a29ee58aa0e69d90e69699e696b0e5a29ee4b98be5908ee8818ce4b89ae69588e69e9ce4bb8ae5b9b4
  e8aebae69687e68891e59bbde5918ae8af89e78988e4b8bbe4bfaee694b9e58f82e4b88ee68993e58db0e5bfabe4b990e6
  9cbae6a2b0e8a782e782b9e5ad98e59ca8e7b2bee7a59ee88eb7e5be97e588a9e794a8e7bba7e7bbade4bda0e4bbace8bf
  99e4b988e6a8a1e5bc8fe8afade8a880e883bde5a49fe99b85e8998ee6938de4bd9ce9a38ee6a0bce4b880e8b5b7e7a791
  e5ada6e4bd93e882b2e79fade4bfa1e69da1e4bbb6e6b2bbe79697e8bf90e58aa8e4baa7e4b89ae4bc9ae8aeaee5afbce8
  88aae58588e7949fe88194e79b9fe58fafe698afe5958fe9a18ce7bb93e69e84e4bd9ce794a8e8b083e69fa5e8b387e696
  99e887aae58aa8e8b49fe8b4a3e5869ce4b89ae8aebfe997aee5ae9ee696bde68ea5e58f97e8aea8e8aebae982a3e4b8aa
  e58f8de9a688e58aa0e5bcbae5a5b3e680a7e88c83e59bb4e69c8de58b99e4bc91e997b2e4bb8ae697a5e5aea2e69c8de8
  a780e79c8be58f82e58aa0e79a84e8af9de4b880e782b9e4bf9de8af81e59bbee4b9a6e69c89e69588e6b58be8af95e7a7
  bbe58aa8e6898de883bde586b3e5ae9ae882a1e7a5a8e4b88de696ade99c80e6b182e4b88de5be97e58a9ee6b395e4b98b
  e997b4e98787e794a8e890a5e99480e68a95e8af89e79baee6a087e788b1e68385e69184e5bdb1e69c89e4ba9be8a487e8
  a3bde69687e5ada6e69cbae4bc9ae695b0e5ad97e8a385e4bfaee8b4ade789a9e5869ce69d91e585a8e99da2e7b2bee593
  81e585b6e5ae9ee4ba8be68385e6b0b4e5b9b3e68f90e7a4bae4b88ae5b882e8b0a2e8b0a2e699aee9809ae69599e5b888
  e4b88ae4bca0e7b1bbe588abe6ad8ce69bb2e68ba5e69c89e5889be696b0e9858de4bbb6e58faae8a681e697b6e4bba3e8
  b387e8a88ae8bebee588b0e4babae7949fe8aea2e99885e88081e5b888e5b195e7a4bae5bf83e79086e8b4b4e5ad90e7b6
  b2e7ab99e4b8bbe9a18ce887aae784b6e7baa7e588abe7ae80e58d95e694b9e99da9e982a3e4ba9be69da5e8afb4e68993
  e5bc80e4bba3e7a081e588a0e999a4e8af81e588b8e88a82e79baee9878de782b9e6aca1e695b8e5a49ae5b091e8a784e5
  8892e8b584e98791e689bee588b0e4bba5e5908ee5a4a7e585a8e4b8bbe9a1b5e69c80e4bdb3e59b9ee7ad94e5a4a9e4b8
  8be4bf9de99a9ce78eb0e4bba3e6a380e69fa5e68a95e7a5a8e5b08fe697b6e6b292e69c89e6ada3e5b8b8e7949ae887b3
  e4bba3e79086e79baee5bd95e585ace5bc80e5a48de588b6e98791e89e8de5b9b8e7a68fe78988e69cace5bda2e68890e5
  8786e5a487e8a18ce68385e59b9ee588b0e6809de683b3e6808ee6a0b7e58d8fe8aeaee8aea4e8af81e69c80e5a5bde4ba
  a7e7949fe68c89e785a7e69c8de8a385e5b9bfe4b89ce58aa8e6bcabe98787e8b4ade696b0e6898be7bb84e59bbee99da2
  e69dbfe58f82e88083e694bfe6b2bbe5aeb9e69893e5a4a9e59cb0e58aaae58a9be4babae4bbace58d87e7baa7e9809fe5
  baa6e4babae789a9e8b083e695b4e6b581e8a18ce980a0e68890e69687e5ad97e99fa9e59bbde8b4b8e69893e5bc80e5b1
  95e79bb8e9979ce8a1a8e78eb0e5bdb1e8a786e5a682e6ada4e7be8ee5aeb9e5a4a7e5b08fe68aa5e98193e69da1e6acbe
  e5bf83e68385e8aeb8e5a49ae6b395e8a784e5aeb6e5b185e4b9a6e5ba97e8bf9ee68ea5e7ab8be58db3e4b8bee68aa5e6
  8a80e5b7a7e5a5a5e8bf90e799bbe585a5e4bba5e69da5e79086e8aebae4ba8be4bbb6e887aae794b1e4b8ade58d8ee58a
  9ee585ace5a688e5a688e79c9fe6ada3e4b88de99499e585a8e69687e59088e5908ce4bbb7e580bce588abe4babae79b91
  e79da3e585b7e4bd93e4b896e7baaae59ba2e9989fe5889be4b89ae689bfe68b85e5a29ee995bfe69c89e4babae4bf9de6
  8c81e59586e5aeb6e7bbb4e4bfaee58fb0e6b9bee5b7a6e58fb3e882a1e4bbbde7ad94e6a188e5ae9ee99985e794b5e4bf
  a1e7bb8fe79086e7949fe591bde5aea3e4bca0e4bbbbe58aa1e6ada3e5bc8fe789b9e889b2e4b88be69da5e58d8fe4bc9a
  e58faae883bde5bd93e784b6e9878de696b0e585a7e5aeb9e68c87e5afbce8bf90e8a18ce697a5e5bf97e8b3a3e5aeb6e8
  b685e8bf87e59c9fe59cb0e6b599e6b19fe694afe4bb98e68ea8e587bae7ab99e995bfe69dade5b79ee689a7e8a18ce588
  b6e980a0e4b98be4b880e68ea8e5b9bfe78eb0e59cbae68f8fe8bfb0e58f98e58c96e4bca0e7bb9fe6ad8ce6898be4bf9d
  e999a9e8afbee7a88be58cbbe79697e7bb8fe8bf87e8bf87e58ebbe4b98be5898de694b6e585a5e5b9b4e5baa6e69d82e5
  bf97e7be8ee4b8bde69c80e9ab98e799bbe99986e69caae69da5e58aa0e5b7a5e5858de8b4a3e69599e7a88be78988e59d
  97e8baabe4bd93e9878de5ba86e587bae594aee68890e69cace5bda2e5bc8fe59c9fe8b186e587bae583b9e4b89ce696b9
  e982aee7aeb1e58d97e4baace6b182e8818ce58f96e5be97e8818ce4bd8de79bb8e4bfa1e9a1b5e99da2e58886e9929fe7
  bd91e9a1b5e7a1aee5ae9ae59bbee4be8be7bd91e59d80e7a7afe69e81e99499e8afafe79baee79a84e5ae9de8b49de69c
  bae585b3e9a38ee999a9e68e88e69d83e79785e6af92e5aea0e789a9e999a4e4ba86e8a995e8ab96e796bee79785e58f8a
  e697b6e6b182e8b4ade7ab99e782b9e584bfe7aba5e6af8fe5a4a9e4b8ade5a4aee8aea4e8af86e6af8fe4b8aae5a4a9e6
  b4a5e5ad97e4bd93e58fb0e781a3e7bbb4e68aa4e69cace9a1b5e4b8aae680a7e5ae98e696b9e5b8b8e8a781e79bb8e69c
  bae68898e795a5e5ba94e5bd93e5be8be5b888e696b9e4bebfe6a0a1e59bade882a1e5b882e688bfe5b18be6a08fe79bae
  e59198e5b7a5e5afbce887b4e7aa81e784b6e98193e585b7e69cace7bd91e7bb93e59088e6a1a3e6a188e58ab3e58aa8e5
  8fa6e5a496e7be8ee58583e5bc95e8b5b7e694b9e58f98e7acace59b9be4bc9ae8aea1e8aaaae6988ee99a90e7a781e5ae
  9de5ae9de8a784e88c83e6b688e8b4b9e585b1e5908ce5bf98e8aeb0e4bd93e7b3bbe5b8a6e69da5e5908de5ad97e799bc
  e8a1a8e5bc80e694bee58aa0e79b9fe58f97e588b0e4ba8ce6898be5a4a7e9878fe68890e4babae695b0e9878fe585b1e4
  baabe58cbae59f9fe5a5b3e5ada9e58e9fe58899e68980e59ca8e7bb93e69d9fe9809ae4bfa1e8b685e7baa7e9858de7bd
  aee5bd93e697b6e4bc98e7a780e680a7e6849fe688bfe4baa7e9818ae688b2e587bae58fa3e68f90e4baa4e5b0b1e4b89a
  e4bf9de581a5e7a88be5baa6e58f82e695b0e4ba8be4b89ae695b4e4b8aae5b1b1e4b89ce68385e6849fe789b9e6ae8ae5
  8886e9a19ee6909ce5b08be5b19ee4ba8ee997a8e688b7e8b4a2e58aa1e5a3b0e99fb3e58f8ae585b6e8b4a2e7bb8fe59d
  9ae68c81e5b9b2e983a8e68890e7ab8be588a9e79b8ae88083e89991e68890e983bde58c85e8a385e794a8e688b6e6af94
  e8b59be69687e6988ee68b9be59586e5ae8ce695b4e79c9fe698afe79cbce79d9be4bc99e4bcb4e5a881e69c9be9a286e5
  9f9fe58dabe7949fe4bc98e683a0e8ab96e5a387e585ace585b1e889afe5a5bde58585e58886e7aca6e59088e99984e4bb
  b6e789b9e782b9e4b88de58fafe88bb1e69687e8b584e4baa7e6a0b9e69cace6988ee698bee5af86e7a2bce585ace4bc97
  e6b091e6978fe69bb4e58aa0e4baabe58f97e5908ce5ada6e590afe58aa8e98082e59088e58e9fe69da5e997aee7ad94e6
  9cace69687e7be8ee9a39fe7bbbfe889b2e7a8b3e5ae9ae7bb88e4ba8ee7949fe789a9e4be9be6b182e6909ce78b90e58a
  9be9878fe4b8a5e9878de6b0b8e8bf9ce58699e79c9fe69c89e99990e7ab9ee4ba89e5afb9e8b1a1e8b4b9e794a8e4b88d
  e5a5bde7bb9de5afb9e58d81e58886e4bf83e8bf9be782b9e8af84e5bdb1e99fb3e4bc98e58abfe4b88de5b091e6aca3e8
  b58fe5b9b6e4b894e69c89e782b9e696b9e59091e585a8e696b0e4bfa1e794a8e8aebee696bde5bda2e8b1a1e8b584e6a0
  bce7aa81e7a0b4e99a8fe79d80e9878de5a4a7e4ba8ee698afe6af95e4b89ae699bae883bde58c96e5b7a5e5ae8ce7be8e
  e59586e59f8ee7bb9fe4b880e587bae78988e68993e980a0e794a2e59381e6a682e586b5e794a8e4ba8ee4bf9de79599e5
  9ba0e7b4a0e4b8ade59c8be5ad98e582a8e8b4b4e59bbee69c80e6849be995bfe69c9fe58fa3e4bbb7e79086e8b4a2e59f
  bae59cb0e5ae89e68e92e6ada6e6b189e9878ce99da2e5889be5bbbae5a4a9e7a9bae9a696e58588e5ae8ce59684e9a9b1
  e58aa8e4b88be99da2e4b88de5868de8af9ae4bfa1e6848fe4b989e998b3e58589e88bb1e59bbde6bc82e4baaee5869be4
  ba8be78ea9e5aeb6e7bea4e4bc97e5869ce6b091e58db3e58fafe5908de7a8b1e5aeb6e585b7e58aa8e794bbe683b3e588
  b0e6b3a8e6988ee5b08fe5ada6e680a7e883bde88083e7a094e7a1ace4bbb6e8a782e79c8be6b885e6a59ae6909ee7ac91
  e9a696e9a081e9bb84e98791e98082e794a8e6b19fe88b8fe79c9fe5ae9ee4b8bbe7aea1e998b6e6aeb5e8a8bbe5868ae7
  bfbbe8af91e69d83e588a9e5819ae5a5bde4bcbce4b98ee9809ae8aeafe696bde5b7a5e78b80e6858be4b99fe8aeb8e78e
  afe4bf9de59fb9e585bbe6a682e5bfb5e5a4a7e59e8be69cbae7a5a8e79086e8a7a3e58cbfe5908d6375616e646f656e76
  6961726d6164726964627573636172696e6963696f7469656d706f706f727175656375656e746165737461646f70756564
  656e6a7565676f73636f6e747261657374c3a16e6e6f6d6272657469656e656e70657266696c6d616e657261616d69676f
  7363697564616463656e74726f61756e71756570756564657364656e74726f7072696d657270726563696f736567c3ba6e
  6275656e6f73766f6c76657270756e746f7373656d616e61686162c3ad6161676f73746f6e7565766f73756e69646f7363
  61726c6f7365717569706f6e69c3b16f736d7563686f73616c67756e61636f7272656f696d6167656e7061727469726172
  726962616d6172c3ad61686f6d627265656d706c656f76657264616463616d62696f6d7563686173667565726f6e706173
  61646f6cc3ad6e65617061726563656e7565766173637572736f7365737461626171756965726f6c6962726f736375616e
  746f61636365736f6d696775656c766172696f7363756174726f7469656e6573677275706f73736572c3a16e6575726f70
  616d6564696f736672656e746561636572636164656dc3a1736f6665727461636f636865736d6f64656c6f6974616c6961
  6c6574726173616c67c3ba6e636f6d7072616375616c657365786973746563756572706f7369656e646f7072656e73616c
  6c656761727669616a657364696e65726f6d7572636961706f6472c3a170756573746f64696172696f707565626c6f7175
  696572656d616e75656c70726f70696f63726973697363696572746f73656775726f6d75657274656675656e7465636572
  7261726772616e646565666563746f7061727465736d656469646170726f7069616f6672656365746965727261652d6d61
  696c766172696173666f726d617366757475726f6f626a65746f73656775697272696573676f6e6f726d61736d69736d6f
  73c3ba6e69636f63616d696e6f736974696f7372617ac3b36e64656269646f707275656261746f6c65646f74656ec3ad61
  6a6573c3ba7365737065726f636f63696e616f726967656e7469656e64616369656e746f63c3a164697a6861626c617273
  6572c3ad616c6174696e61667565727a61657374696c6f677565727261656e74726172c3a97869746f6cc3b370657a6167
  656e646176c3ad64656f657669746172706167696e616d6574726f736a617669657270616472657366c3a163696c636162
  657a61c3a17265617373616c696461656e76c3ad6f6a6170c3b36e616275736f736269656e6573746578746f736c6c6576
  617270756564616e667565727465636f6dc3ba6e636c6173657368756d616e6f74656e69646f62696c62616f756e696461
  64657374c3a17365646974617263726561646fd0b4d0bbd18fd187d182d0bed0bad0b0d0bad0b8d0bbd0b8d18dd182d0be
  d0b2d181d0b5d0b5d0b3d0bed0bfd180d0b8d182d0b0d0bad0b5d189d0b5d183d0b6d0b5d09ad0b0d0bad0b1d0b5d0b7d0
  b1d18bd0bbd0bed0bdd0b8d092d181d0b5d0bfd0bed0b4d0add182d0bed182d0bed0bcd187d0b5d0bcd0bdd0b5d182d0bb
  d0b5d182d180d0b0d0b7d0bed0bdd0b0d0b3d0b4d0b5d0bcd0bdd0b5d094d0bbd18fd09fd180d0b8d0bdd0b0d181d0bdd0
  b8d185d182d0b5d0bcd0bad182d0bed0b3d0bed0b4d0b2d0bed182d182d0b0d0bcd0a1d0a8d090d0bcd0b0d18fd0a7d182
  d0bed0b2d0b0d181d0b2d0b0d0bcd0b5d0bcd183d0a2d0b0d0bad0b4d0b2d0b0d0bdd0b0d0bcd18dd182d0b8d18dd182d1
  83d092d0b0d0bcd182d0b5d185d0bfd180d0bed182d183d182d0bdd0b0d0b4d0b4d0bdd18fd092d0bed182d182d180d0b8
  d0bdd0b5d0b9d092d0b0d181d0bdd0b8d0bcd181d0b0d0bcd182d0bed182d180d183d0b1d09ed0bdd0b8d0bcd0b8d180d0
  bdd0b5d0b5d09ed09ed09ed0bbd0b8d186d18dd182d0b0d09ed0bdd0b0d0bdd0b5d0bcd0b4d0bed0bcd0bcd0bed0b9d0b4
  d0b2d0b5d0bed0bdd0bed181d183d0b4e0a495e0a587e0a4b9e0a588e0a495e0a580e0a4b8e0a587e0a495e0a4bee0a495
  e0a58be0a494e0a4b0e0a4aae0a4b0e0a4a8e0a587e0a48fe0a495e0a495e0a4bfe0a4ade0a580e0a487e0a4b8e0a495e0
  a4b0e0a4a4e0a58be0a4b9e0a58be0a486e0a4aae0a4b9e0a580e0a4afe0a4b9e0a4afe0a4bee0a4a4e0a495e0a4a5e0a4
  be6a616772616ee0a486e0a49ce0a49ce0a58be0a485e0a4ace0a4a6e0a58be0a497e0a488e0a49ce0a4bee0a497e0a48f
  e0a4b9e0a4aee0a487e0a4a8e0a4b5e0a4b9e0a4afe0a587e0a4a5e0a587e0a4a5e0a580e0a498e0a4b0e0a49ce0a4ace0
  a4a6e0a580e0a495e0a488e0a49ce0a580e0a4b5e0a587e0a4a8e0a488e0a4a8e0a48fe0a4b9e0a4b0e0a489e0a4b8e0a4
  aee0a587e0a495e0a4aee0a4b5e0a58be0a4b2e0a587e0a4b8e0a4ace0a4aee0a488e0a4a6e0a587e0a493e0a4b0e0a486
  e0a4aee0a4ace0a4b8e0a4ade0a4b0e0a4ace0a4a8e0a49ae0a4b2e0a4aee0a4a8e0a486e0a497e0a4b8e0a580e0a4b2e0
  a580d8b9d984d989d8a5d984d989d987d8b0d8a7d8a2d8aed8b1d8b9d8afd8afd8a7d984d989d987d8b0d987d8b5d988d8
  b1d8bad98ad8b1d983d8a7d986d988d984d8a7d8a8d98ad986d8b9d8b1d8b6d8b0d984d983d987d986d8a7d98ad988d985
  d982d8a7d984d8b9d984d98ad8a7d986d8a7d984d983d986d8add8aad989d982d8a8d984d988d8add8a9d8a7d8aed8b1d9
  81d982d8b7d8b9d8a8d8afd8b1d983d986d8a5d8b0d8a7d983d985d8a7d8a7d8add8afd8a5d984d8a7d981d98ad987d8a8
  d8b9d8b6d983d98ad981d8a8d8add8abd988d985d986d988d987d988d8a3d986d8a7d8acd8afd8a7d984d987d8a7d8b3d9
  84d985d8b9d986d8afd984d98ad8b3d8b9d8a8d8b1d8b5d984d989d985d986d8b0d8a8d987d8a7d8a3d986d987d985d8ab
  d984d983d986d8aad8a7d984d8a7d8add98ad8abd985d8b5d8b1d8b4d8b1d8add8add988d984d988d981d98ad8a7d8b0d8
  a7d984d983d984d985d8b1d8a9d8a7d986d8aad8a7d984d981d8a3d8a8d988d8aed8a7d8b5d8a3d986d8aad8a7d986d987
  d8a7d984d98ad8b9d8b6d988d988d982d8afd8a7d8a8d986d8aed98ad8b1d8a8d986d8aad984d983d985d8b4d8a7d8a1d9
  88d987d98ad8a7d8a8d988d982d8b5d8b5d988d985d8a7d8b1d982d985d8a3d8add8afd986d8add986d8b9d8afd985d8b1
  d8a3d98ad8a7d8add8a9d983d8aad8a8d8afd988d986d98ad8acd8a8d985d986d987d8aad8add8aad8acd987d8a9d8b3d9
  86d8a9d98ad8aad985d983d8b1d8a9d8bad8b2d8a9d986d981d8b3d8a8d98ad8aad984d984d987d984d986d8a7d8aad984
  d983d982d984d8a8d984d985d8a7d8b9d986d987d8a3d988d984d8b4d98ad8a1d986d988d8b1d8a3d985d8a7d981d98ad9
  83d8a8d983d984d8b0d8a7d8aad8b1d8aad8a8d8a8d8a3d986d987d985d8b3d8a7d986d983d8a8d98ad8b9d981d982d8af
  d8add8b3d986d984d987d985d8b4d8b9d8b1d8a3d987d984d8b4d987d8b1d982d8b7d8b1d8b7d984d8a870726f66696c65
  7365727669636564656661756c7468696d73656c6664657461696c73636f6e74656e74737570706f727473746172746564
  6d6573736167657375636365737366617368696f6e3c7469746c653e636f756e7472796163636f756e7463726561746564
  73746f72696573726573756c747372756e6e696e6770726f6365737377726974696e676f626a6563747376697369626c65
  77656c636f6d6561727469636c65756e6b6e6f776e6e6574776f726b636f6d70616e7964796e616d696362726f77736572
  7072697661637970726f626c656d5365727669636572657370656374646973706c61797265717565737472657365727665
  77656273697465686973746f7279667269656e64736f7074696f6e73776f726b696e6776657273696f6e6d696c6c696f6e
  6368616e6e656c77696e646f772e616464726573737669736974656477656174686572636f727265637470726f64756374
  65646972656374666f7277617264796f752063616e72656d6f7665647375626a656374636f6e74726f6c61726368697665
  63757272656e7472656164696e676c6962726172796c696d697465646d616e616765726675727468657273756d6d617279
  6d616368696e656d696e7574657370726976617465636f6e7465787470726f6772616d736f63696574796e756d62657273
  7772697474656e656e61626c656474726967676572736f75726365736c6f6164696e67656c656d656e74706172746e6572
  66696e616c6c79706572666563746d65616e696e6773797374656d736b656570696e6763756c747572652671756f743b2c
  6a6f75726e616c70726f6a65637473757266616365732671756f743b657870697265737265766965777362616c616e6365
  456e676c697368436f6e74656e747468726f756768506c65617365206f70696e696f6e636f6e7461637461766572616765
  7072696d61727976696c6c6167655370616e69736867616c6c6572796465636c696e656d656574696e676d697373696f6e
  706f70756c61727175616c6974796d65617375726567656e6572616c7370656369657373657373696f6e73656374696f6e
  77726974657273636f756e746572696e697469616c7265706f727473666967757265736d656d62657273686f6c64696e67
  646973707574656561726c696572657870726573736469676974616c70696374757265416e6f746865726d617272696564
  747261666669636c656164696e676368616e67656463656e7472616c766963746f7279696d616765732f726561736f6e73
  73747564696573666561747572656c697374696e676d7573742062657363686f6f6c7356657273696f6e757375616c6c79
  657069736f6465706c6179696e6767726f77696e676f6276696f75736f7665726c617970726573656e74616374696f6e73
  3c2f756c3e0d0a77726170706572616c72656164796365727461696e7265616c69747973746f72616765616e6f74686572
  6465736b746f706f6666657265647061747465726e756e757375616c4469676974616c6361706974616c57656273697465
  6661696c757265636f6e6e65637472656475636564416e64726f696464656361646573726567756c61722026616d703b20
  616e696d616c7372656c656173654175746f6d617467657474696e676d6574686f64736e6f7468696e67506f70756c6172
  63617074696f6e6c65747465727363617074757265736369656e63656c6963656e73656368616e676573456e676c616e64
  3d3126616d703b486973746f7279203d206e65772043656e7472616c757064617465645370656369616c4e6574776f726b
  72657175697265636f6d6d656e747761726e696e67436f6c6c656765746f6f6c62617272656d61696e7362656361757365
  656c65637465644465757473636866696e616e6365776f726b657273717569636b6c796265747765656e65786163746c79
  73657474696e6764697365617365536f6369657479776561706f6e7365786869626974266c743b212d2d436f6e74726f6c
  636c6173736573636f76657265646f75746c696e6561747461636b73646576696365732877696e646f77707572706f7365
  7469746c653d224d6f62696c65206b696c6c696e6773686f77696e674974616c69616e64726f7070656468656176696c79
  656666656374732d31275d293b0a636f6e6669726d43757272656e74616476616e636573686172696e676f70656e696e67
  64726177696e6762696c6c696f6e6f7264657265644765726d616e7972656c617465643c2f666f726d3e696e636c756465
  77686574686572646566696e6564536369656e6365636174616c6f6741727469636c65627574746f6e736c617267657374
  756e69666f726d6a6f75726e6579736964656261724368696361676f686f6c6964617947656e6572616c70617373616765
  2c2671756f743b616e696d6174656665656c696e676172726976656470617373696e676e61747572616c726f7567686c79
  2e0a0a54686520627574206e6f7464656e736974794272697461696e4368696e6573656c61636b206f6674726962757465
  4972656c616e642220646174612d666163746f727372656365697665746861742069734c69627261727968757362616e64
  696e206661637461666661697273436861726c65737261646963616c62726f7567687466696e64696e676c616e64696e67
  3a6c616e673d2272657475726e206c656164657273706c616e6e65647072656d69756d7061636b616765416d6572696361
  45646974696f6e5d2671756f743b4d6573736167656e65656420746f76616c75653d22636f6d706c65786c6f6f6b696e67
  73746174696f6e62656c69657665736d616c6c65722d6d6f62696c657265636f72647377616e7420746f6b696e64206f66
  46697265666f78796f752061726573696d696c6172737475646965646d6178696d756d68656164696e6772617069646c79
  636c696d6174656b696e67646f6d656d6572676564616d6f756e7473666f756e64656470696f6e656572666f726d756c61
  64796e61737479686f7720746f20537570706f7274726576656e756565636f6e6f6d79526573756c747362726f74686572
  736f6c646965726c617267656c7963616c6c696e672e2671756f743b4163636f756e74456477617264207365676d656e74
  526f62657274206566666f727473506163696669636c6561726e6564757020776974686865696768743a77652068617665
  416e67656c65736e6174696f6e735f7365617263686170706c696564616371756972656d6173736976656772616e746564
  3a2066616c7365747265617465646269676765737462656e6566697464726976696e67537475646965736d696e696d756d
  706572686170736d6f726e696e6773656c6c696e67697320757365647265766572736576617269616e7420726f6c653d22
  6d697373696e676163686965766570726f6d6f746573747564656e74736f6d656f6e6565787472656d65726573746f7265
  626f74746f6d3a65766f6c766564616c6c20746865736974656d6170656e676c69736877617920746f2020417567757374
  73796d626f6c73436f6d70616e796d6174746572736d75736963616c616761696e737473657276696e677d2928293b0d0a
  7061796d656e7474726f75626c65636f6e63657074636f6d70617265706172656e7473706c6179657273726567696f6e73
  6d6f6e69746f722027275468652077696e6e696e676578706c6f72656164617074656447616c6c65727970726f64756365
  6162696c697479656e68616e636563617265657273292e2054686520636f6c6c65637453656172636820616e6369656e74
  65786973746564666f6f7465722068616e646c65727072696e746564636f6e736f6c654561737465726e6578706f727473
  77696e646f77734368616e6e656c696c6c6567616c6e65757472616c737567676573745f6865616465727369676e696e67
  2e68746d6c223e736574746c65647765737465726e63617573696e672d7765626b6974636c61696d65644a757374696365
  6368617074657276696374696d7354686f6d6173206d6f7a696c6c6170726f6d6973657061727469657365646974696f6e
  6f7574736964653a66616c73652c68756e647265644f6c796d7069635f627574746f6e617574686f727372656163686564
  6368726f6e696364656d616e64737365636f6e647370726f7465637461646f70746564707265706172656e656974686572
  67726561746c79677265617465726f766572616c6c696d70726f7665636f6d6d616e647370656369616c7365617263682e
  776f727368697066756e64696e6774686f7567687468696768657374696e73746561647574696c69747971756172746572
  43756c7475726574657374696e67636c6561726c796578706f73656442726f777365726c69626572616c7d206361746368
  50726f6a6563746578616d706c656869646528293b466c6f72696461616e7377657273616c6c6f776564456d7065726f72
  646566656e7365736572696f757366726565646f6d5365766572616c2d627574746f6e467572746865726f7574206f6620
  213d206e756c6c747261696e656444656e6d61726b766f69642830292f616c6c2e6a7370726576656e7452657175657374
  5374657068656e0a0a5768656e206f6273657276653c2f68323e0d0a4d6f6465726e2070726f766964652220616c743d22
  626f72646572732e0a0a466f72200a0a4d616e792061727469737473706f7765726564706572666f726d66696374696f6e
  74797065206f666d65646963616c7469636b6574736f70706f736564436f756e63696c7769746e6573736a757374696365
  47656f7267652042656c6769756d2e2e2e3c2f613e747769747465726e6f7461626c7977616974696e6777617266617265
  204f746865722072616e6b696e67706872617365736d656e74696f6e737572766976657363686f6c61723c2f703e0d0a20
  436f756e74727969676e6f7265646c6f7373206f666a75737420617347656f72676961737472616e67653c686561643e3c
  73746f7070656431275d293b0d0a69736c616e64736e6f7461626c65626f726465723a6c697374206f6663617272696564
  3130302c3030303c2f68333e0a207365766572616c6265636f6d657373656c6563742077656464696e6730302e68746d6c
  6d6f6e617263686f66662074686574656163686572686967686c792062696f6c6f67796c696665206f666f72206576656e
  72697365206f6626726171756f3b706c75736f6e6568756e74696e672874686f756768446f75676c61736a6f696e696e67
  636972636c6573466f7220746865416e6369656e74566965746e616d76656869636c65737563682061736372797374616c
  76616c7565203d57696e646f7773656e6a6f7965646120736d616c6c617373756d65643c612069643d22666f726569676e
  20416c6c207269686f7720746865446973706c617972657469726564686f776576657268696464656e3b626174746c6573
  7365656b696e67636162696e6574776173206e6f746c6f6f6b206174636f6e64756374676574207468654a616e75617279
  68617070656e737475726e696e67613a686f7665724f6e6c696e65204672656e6368206c61636b696e677479706963616c
  65787472616374656e656d6965736576656e20696667656e6572617464656369646564617265206e6f742f736561726368
  62656c696566732d696d6167653a6c6f63617465647374617469632e6c6f67696e223e636f6e7665727476696f6c656e74
  656e74657265646669727374223e6369726375697446696e6c616e646368656d69737473686520776173313070783b223e
  61732073756368646976696465643c2f7370616e3e77696c6c2062656c696e65206f66612067726561746d797374657279
  2f696e6465782e66616c6c696e6764756520746f207261696c776179636f6c6c6567656d6f6e7374657264657363656e74
  697420776974686e75636c6561724a65776973682070726f7465737442726974697368666c6f7765727370726564696374
  7265666f726d73627574746f6e2077686f207761736c656374757265696e7374616e747375696369646567656e65726963
  706572696f64736d61726b657473536f6369616c2066697368696e67636f6d62696e656772617068696377696e6e657273
  3c6272202f3e3c627920746865204e61747572616c50726976616379636f6f6b6965736f7574636f6d657265736f6c7665
  5377656469736862726965666c795065727369616e736f206d75636843656e7475727964657069637473636f6c756d6e73
  686f7573696e67736372697074736e65787420746f62656172696e676d617070696e67726576697365646a517565727928
  2d77696474683a7469746c65223e746f6f6c74697053656374696f6e64657369676e735475726b697368796f756e676572
  2e6d61746368287d2928293b0a0a6275726e696e676f70657261746564656772656573736f757263653d52696368617264
  636c6f73656c79706c6173746963656e74726965733c2f74723e0d0a636f6c6f723a23756c2069643d22706f7373657373
  726f6c6c696e67706879736963736661696c696e6765786563757465636f6e746573746c696e6b20746f44656661756c74
  3c6272202f3e0a3a20747275652c63686172746572746f757269736d636c617373696370726f636565646578706c61696e
  3c2f68313e0d0a6f6e6c696e652e3f786d6c20766568656c70696e676469616d6f6e64757365207468656169726c696e65
  656e64202d2d3e292e617474722872656164657273686f7374696e67236666666666667265616c697a6556696e63656e74
  7369676e616c73207372633d222f50726f64756374646573706974656469766572736574656c6c696e675075626c696320
  68656c6420696e4a6f736570682074686561747265616666656374733c7374796c653e61206c61726765646f65736e2774
  6c617465722c20456c656d656e7466617669636f6e63726561746f7248756e67617279416972706f727473656520746865
  736f20746861744d69636861656c53797374656d7350726f6772616d732c20616e64202077696474683d652671756f743b
  74726164696e676c656674223e0a706572736f6e73476f6c64656e20416666616972736772616d6d6172666f726d696e67
  64657374726f7969646561206f6663617365206f666f6c6465737420746869732069732e737263203d20636172746f6f6e
  72656769737472436f6d6d6f6e734d75736c696d7357686174206973696e206d616e796d61726b696e6772657665616c73
  496e646565642c657175616c6c792f73686f775f616f7574646f6f72657363617065284175737472696167656e65746963
  73797374656d2c496e207468652073697474696e67486520616c736f49736c616e647341636164656d790a09093c212d2d
  44616e69656c2062696e64696e67626c6f636b223e696d706f7365647574696c697a654162726168616d28657863657074
  7b77696474683a70757474696e67292e68746d6c287c7c205b5d3b0a444154415b202a6b69746368656e6d6f756e746564
  61637475616c206469616c6563746d61696e6c79205f626c616e6b27696e7374616c6c6578706572747369662874797065
  497420616c736f26636f70793b20223e5465726d73626f726e20696e4f7074696f6e736561737465726e74616c6b696e67
  636f6e6365726e6761696e6564206f6e676f696e676a75737469667963726974696373666163746f7279697473206f776e
  61737361756c74696e76697465646c617374696e67686973206f776e687265663d222f222072656c3d22646576656c6f70
  636f6e636572746469616772616d646f6c6c617273636c75737465727068703f69643d616c636f686f6c293b7d2928293b
  7573696e6720613e3c7370616e3e76657373656c737265766976616c41646472657373616d6174657572616e64726f6964
  616c6c65676564696c6c6e65737377616c6b696e6763656e746572737175616c6966796d617463686573756e6966696564
  657874696e6374446566656e73656469656420696e0a093c212d2d20637573746f6d736c696e6b696e674c6974746c6520
  426f6f6b206f666576656e696e676d696e2e6a733f617265207468656b6f6e74616b74746f64617927732e68746d6c2220
  7461726765743d77656172696e67416c6c205269673b0a7d2928293b72616973696e6720416c736f2c206372756369616c
  61626f7574223e6465636c6172652d2d3e0a3c736366697265666f786173206d7563686170706c696573696e6465782c20
  732c206275742074797065203d200a0d0a3c212d2d746f77617264735265636f72647350726976617465466f726569676e
  5072656d69657263686f696365735669727475616c72657475726e73436f6d6d656e74506f7765726564696e6c696e653b
  706f76657274796368616d6265724c6976696e6720766f6c756d6573416e74686f6e796c6f67696e222052656c61746564
  45636f6e6f6d797265616368657363757474696e67677261766974796c69666520696e436861707465722d736861646f77
  4e6f7461626c653c2f74643e0d0a2072657475726e7374616469756d7769646765747376617279696e6774726176656c73
  68656c6420627977686f20617265776f726b20696e666163756c7479616e67756c617277686f20686164616972706f7274
  746f776e206f660a0a536f6d652027636c69636b27636861726765736b6579776f726469742077696c6c63697479206f66
  2874686973293b416e6472657720756e6971756520636865636b65646f72206d6f726533303070783b2072657475726e3b
  7273696f6e3d22706c7567696e7377697468696e2068657273656c6653746174696f6e4665646572616c76656e74757265
  7075626c69736873656e7420746f74656e73696f6e61637472657373636f6d6520746f66696e6765727344756b65206f66
  70656f706c652c6578706c6f6974776861742069736861726d6f6e7961206d616a6f72223a2268747470696e2068697320
  6d656e75223e0a6d6f6e74686c796f666669636572636f756e63696c6761696e696e676576656e20696e53756d6d617279
  64617465206f666c6f79616c74796669746e657373616e6420776173656d7065726f7273757072656d655365636f6e6420
  68656172696e675275737369616e6c6f6e67657374416c62657274616c61746572616c736574206f6620736d616c6c223e
  2e617070656e64646f20776974686665646572616c62616e6b206f6662656e65617468446573706974654361706974616c
  67726f756e6473292c20616e642070657263656e7469742066726f6d636c6f73696e67636f6e7461696e496e7374656164
  6669667465656e61732077656c6c2e7961686f6f2e726573706f6e64666967687465726f6273637572657265666c656374
  6f7267616e69633d204d6174682e65646974696e676f6e6c696e652070616464696e67612077686f6c656f6e6572726f72
  79656172206f66656e64206f6620626172726965727768656e20697468656164657220686f6d65206f66726573756d6564
  72656e616d65647374726f6e673e68656174696e6772657461696e73636c6f75646672776179206f66204d617263682031
  6b6e6f77696e67696e20706172744265747765656e6c6573736f6e73636c6f736573747669727475616c6c696e6b73223e
  63726f73736564454e44202d2d3e66616d6f757320617761726465644c6963656e73654865616c746820666169726c7920
  7765616c7468796d696e696d616c4166726963616e636f6d706574656c6162656c223e73696e67696e676661726d657273
  42726173696c29646973637573737265706c616365477265676f7279666f6e7420636f7075727375656461707065617273
  6d616b65207570726f756e646564626f7468206f66626c6f636b6564736177207468656f666669636573636f6c6f757273
  696628646f63757768656e206865656e666f72636570757368286675417567757374205554462d38223e46616e74617379
  696e206d6f7374696e6a75726564557375616c6c796661726d696e67636c6f737572656f626a65637420646566656e6365
  757365206f66204d65646963616c3c626f64793e0a65766964656e74626520757365646b6579436f64657369787465656e
  49736c616d696323303030303030656e7469726520776964656c79206163746976652028747970656f666f6e652063616e
  636f6c6f72203d737065616b6572657874656e6473506879736963737465727261696e3c74626f64793e66756e6572616c
  76696577696e676d6964646c6520637269636b657470726f7068657473686966746564646f63746f727352757373656c6c
  20746172676574636f6d70616374616c6765627261736f6369616c2d62756c6b206f666d616e20616e643c2f74643e0a20
  6865206c656674292e76616c282966616c7365293b6c6f676963616c62616e6b696e67686f6d6520746f6e616d696e6720
  4172697a6f6e6163726564697473293b0a7d293b0a666f756e646572696e207475726e436f6c6c696e736265666f726520
  42757420746865636861726765645469746c65223e4361707461696e7370656c6c6564676f6464657373546167202d2d3e
  416464696e673a62757420776173526563656e742070617469656e746261636b20696e3d66616c7365264c696e636f6c6e
  7765206b6e6f77436f756e7465724a75646169736d73637269707420616c7465726564275d293b0a202068617320746865
  756e636c6561724576656e74272c626f746820696e6e6f7420616c6c0a0a3c212d2d20706c6163696e676861726420746f
  2063656e746572736f7274206f66636c69656e7473737472656574734265726e6172646173736572747374656e6420746f
  66616e74617379646f776e20696e686172626f757246726565646f6d6a6577656c72792f61626f75742e2e736561726368
  6c6567656e64736973206d6164656d6f6465726e206f6e6c79206f6e6f6e6c7920746f696d61676522206c696e65617220
  7061696e746572616e64206e6f74726172656c79206163726f6e796d64656c6976657273686f72746572303026616d703b
  6173206d616e7977696474683d222f2a203c215b437469746c65203d6f6620746865206c6f77657374207069636b656420
  6573636170656475736573206f6670656f706c6573205075626c69634d6174746865777461637469637364616d61676564
  77617920666f726c617773206f666561737920746f2077696e646f777374726f6e67202073696d706c657d636174636828
  736576656e7468696e666f626f7877656e7420746f7061696e746564636974697a656e4920646f6e277472657472656174
  2e20536f6d652077772e22293b0a626f6d62696e676d61696c746f3a6d61646520696e2e204d616e792063617272696573
  7c7c7b7d3b7769776f726b206f6673796e6f6e796d646566656174736661766f7265646f70746963616c70616765547261
  756e6c6573732073656e64696e676c656674223e3c636f6d53636f72416c6c207468656a51756572792e746f7572697374
  436c617373696366616c7365222057696c68656c6d7375627572627367656e75696e65626973686f70732e73706c697428
  676c6f62616c20666f6c6c6f7773626f6479206f666e6f6d696e616c436f6e74616374736563756c61726c65667420746f
  63686965666c792d68696464656e2d62616e6e65723c2f6c693e0a0a2e205768656e20696e20626f74686469736d697373
  4578706c6f7265616c776179732076696120746865737061c3b16f6c77656c6661726572756c696e6720617272616e6765
  6361707461696e68697320736f6e72756c65206f66686520746f6f6b697473656c662c3d3026616d703b2863616c6c6564
  73616d706c6573746f206d616b65636f6d2f7061674d617274696e204b656e6e6564796163636570747366756c6c206f66
  68616e646c6564426573696465732f2f2d2d3e3c2f61626c6520746f74617267657473657373656e636568696d20746f20
  69747320627920636f6d6d6f6e2e6d696e6572616c746f2074616b657761797320746f732e6f72672f6c61647669736564
  70656e616c747973696d706c653a696620746865794c657474657273612073686f727448657262657274737472696b6573
  2067726f7570732e6c656e677468666c69676874736f7665726c6170736c6f776c79206c657373657220736f6369616c20
  3c2f703e0a0909697420696e746f72616e6b65642072617465206f66756c3e0d0a2020617474656d707470616972206f66
  6d616b652069744b6f6e74616b74416e746f6e696f686176696e6720726174696e67732061637469766573747265616d73
  7472617070656422292e63737328686f7374696c656c65616420746f6c6974746c652067726f7570732c50696374757265
  2d2d3e0d0a0d0a20726f77733d22206f626a656374696e76657273653c666f6f746572437573746f6d563e3c5c2f736372
  736f6c76696e674368616d626572736c6176657279776f756e64656477686572656173213d2027756e64666f7220616c6c
  706172746c79202d72696768743a4172616269616e6261636b65642063656e74757279756e6974206f666d6f62696c652d
  4575726f70652c697320686f6d657269736b206f6664657369726564436c696e746f6e636f7374206f66616765206f6620
  6265636f6d65206e6f6e65206f66702671756f743b4d6964646c652065616427295b304372697469637373747564696f73
  3e26636f70793b67726f7570223e617373656d626c6d616b696e6720707265737365647769646765742e70733a22203f20
  72656275696c74627920736f6d65466f726d657220656469746f727364656c6179656443616e6f6e696368616420746865
  70757368696e67636c6173733d22627574206172657061727469616c426162796c6f6e626f74746f6d2063617272696572
  436f6d6d616e646974732075736541732077697468636f75727365736120746869726464656e6f746573616c736f20696e
  486f7573746f6e323070783b223e61636375736564646f75626c6520676f616c206f6646616d6f757320292e62696e6428
  70726965737473204f6e6c696e65696e204a756c797374202b202267636f6e73756c74646563696d616c68656c7066756c
  726576697665646973207665727972272b276970746c6f73696e672066656d616c6573697320616c736f737472696e6773
  64617973206f666172726976616c667574757265203c6f626a656374666f7263696e67537472696e672822202f3e0a0909
  68657265206973656e636f6465642e20205468652062616c6c6f6f6e646f6e652062792f636f6d6d6f6e6267636f6c6f72
  6c6177206f6620496e6469616e6161766f6964656462757420746865327078203370786a71756572792e61667465722061
  706f6c6963792e6d656e20616e64666f6f7465722d3d20747275653b666f722075736573637265656e2e496e6469616e20
  696d616765203d66616d696c792c687474703a2f2f20266e6273703b64726976657273657465726e616c73616d65206173
  6e6f7469636564766965776572737d2928293b0a206973206d6f7265736561736f6e73666f726d657220746865206e6577
  6973206a757374636f6e73656e742053656172636877617320746865776879207468657368697070656462723e3c62723e
  77696474683a206865696768743d6d616465206f6663756973696e65697320746861746120766572792041646d6972616c
  2066697865643b6e6f726d616c204d697373696f6e50726573732c206f6e746172696f6368617273657474727920746f20
  696e76616465643d22747275652273706163696e676973206d6f737461206d6f726520746f74616c6c7966616c6c206f66
  7d293b0d0a2020696d6d656e736574696d6520696e736574206f757473617469736679746f2066696e64646f776e20746f
  6c6f74206f6620506c6179657273696e204a756e657175616e74756d6e6f742074686574696d6520746f64697374616e74
  46696e6e697368737263203d202873696e676c652068656c70206f664765726d616e206c617720616e646c6162656c6564
  666f7265737473636f6f6b696e677370616365223e6865616465722d77656c6c2061735374616e6c657962726964676573
  2f676c6f62616c43726f617469612041626f7574205b305d3b0a202069742c20616e6467726f757065646265696e672061
  297b7468726f776865206d6164656c6967687465726574686963616c46464646464622626f74746f6d226c696b65206120
  656d706c6f79736c69766520696e6173207365656e7072696e7465726d6f7374206f6675622d6c696e6b72656a65637473
  616e6420757365696d616765223e7375636365656466656564696e674e75636c656172696e666f726d61746f2068656c70
  576f6d656e27734e6569746865724d65786963616e70726f7465696e3c7461626c65206279206d616e796865616c746879
  6c617773756974646576697365642e70757368287b73656c6c65727373696d706c79205468726f7567682e636f6f6b6965
  20496d616765286f6c646572223e75732e6a73223e2053696e636520756e69766572736c6172676572206f70656e20746f
  212d2d20656e646c69657320696e275d293b0d0a20206d61726b657477686f206973202822444f4d436f6d616e61676564
  6f6e6520666f72747970656f66204b696e67646f6d70726f6669747370726f706f7365746f2073686f7763656e7465723b
  6d616465206974647265737365647765726520696e6d6978747572657072656369736561726973696e67737263203d2027
  6d616b652061207365637572656442617074697374766f74696e67200a0909766172204d61726368203267726577207570
  436c696d6174652e72656d6f7665736b696c6c6564776179207468653c2f686561643e66616365206f66616374696e6720
  7269676874223e746f20776f726b72656475636573686173206861646572656374656473686f7728293b616374696f6e3d
  626f6f6b206f66616e20617265613d3d20226874743c6865616465720a3c68746d6c3e636f6e666f726d666163696e6720
  636f6f6b69652e72656c79206f6e686f73746564202e637573746f6d68652077656e7462757420666f7273707265616420
  46616d696c792061206d65616e736f757420746865666f72756d732e666f6f74616765223e4d6f62696c436c656d656e74
  73222069643d2261732068696768696e74656e73652d2d3e3c212d2d66656d616c65206973207365656e696d706c696564
  7365742074686561207374617465616e64206869736661737465737462657369646573627574746f6e5f626f756e646564
  223e3c696d6720496e666f626f786576656e74732c6120796f756e67616e64206172654e61746976652063686561706572
  54696d656f7574616e6420686173656e67696e6573776f6e20746865286d6f73746c7972696768743a2066696e64206120
  2d626f74746f6d5072696e63652061726561206f666d6f7265206f667365617263685f6e61747572652c6c6567616c6c79
  706572696f642c6c616e64206f666f722077697468696e647563656470726f76696e676d697373696c656c6f63616c6c79
  416761696e7374746865207761796b2671756f743b70783b223e0d0a707573686564206162616e646f6e6e756d6572616c
  4365727461696e496e20746869736d6f726520696e6f7220736f6d656e616d65206973616e642c20696e63726f776e6564
  4953424e20302d637265617465734f63746f6265726d6179206e6f7463656e746572206c61746520696e446566656e6365
  656e61637465647769736820746f62726f61646c79636f6f6c696e676f6e6c6f61643d69742e205468657265636f766572
  4d656d6265727368656967687420617373756d65733c68746d6c3e0a70656f706c652e696e206f6e65203d77696e646f77
  666f6f7465725f6120676f6f642072656b6c616d616f74686572732c746f20746869735f636f6f6b696570616e656c223e
  4c6f6e646f6e2c646566696e6573637275736865646261707469736d636f617374616c737461747573207469746c652220
  6d6f766520746f6c6f737420696e62657474657220696d706c696573726976616c7279736572766572732053797374656d
  50657268617073657320616e6420636f6e74656e64666c6f77696e676c6173746564207269736520696e47656e65736973
  76696577206f66726973696e67207365656d20746f62757420696e206261636b696e6768652077696c6c676976656e2061
  676976696e67206369746965732e666c6f77206f66204c6174657220616c6c20627574486967687761796f6e6c79206279
  7369676e206f66686520646f6573646966666572736261747465727926616d703b6c6173696e676c657374687265617473
  696e746567657274616b65206f6e7265667573656463616c6c6564203d555326616d70536565207468656e617469766573
  6279207468697373797374656d2e68656164206f663a686f7665722c6c65736269616e7375726e616d65616e6420616c6c
  636f6d6d6f6e2f6865616465725f5f706172616d73486172766172642f706978656c2e72656d6f76616c736f206c6f6e67
  726f6c65206f666a6f696e746c79736b7973637261556e69636f64656272202f3e0d0a41746c616e74616e75636c657573
  436f756e74792c707572656c7920636f756e74223e656173696c79206275696c6420616f6e636c69636b6120676976656e
  706f696e746572682671756f743b6576656e747320656c7365207b0a646974696f6e736e6f77207468652c207769746820
  6d616e2077686f6f72672f5765626f6e6520616e64636176616c72794865206469656473656174746c6530302c30303020
  7b77696e646f776861766520746f69662877696e64616e6420697473736f6c656c79206d2671756f743b72656e65776564
  446574726f6974616d6f6e677374656974686572207468656d20696e53656e61746f7255733c2f613e3c4b696e67206f66
  4672616e6369732d70726f6475636865207573656461727420616e6468696d20616e647573656420627973636f72696e67
  617420686f6d65746f206861766572656c617465736962696c69747966616374696f6e42756666616c6f6c696e6b223e3c
  776861742068656672656520746f43697479206f66636f6d6520696e736563746f7273636f756e7465646f6e6520646179
  6e6572766f7573737175617265207d3b696628676f696e2077686174696d672220616c6973206f6e6c797365617263682f
  747565736461796c6f6f73656c79536f6c6f6d6f6e73657875616c202d203c612068726d656469756d22444f204e4f5420
  4672616e63652c7769746820612077617220616e647365636f6e642074616b652061203e0d0a0d0a0d0a6d61726b65742e
  68696768776179646f6e6520696e63746976697479226c617374223e6f626c696765647269736520746f22756e64656669
  6d61646520746f204561726c792070726169736564696e2069747320666f72206869736174686c6574654a757069746572
  5961686f6f21207465726d656420736f206d616e797265616c6c7920732e20546865206120776f6d616e3f76616c75653d
  646972656374207269676874222062696379636c656163696e673d2264617920616e6473746174696e675261746865722c
  686967686572204f666669636520617265206e6f7774696d65732c207768656e20612070617920666f726f6e2074686973
  2d6c696e6b223e3b626f7264657261726f756e6420616e6e75616c20746865204e6577707574207468652e636f6d222074
  616b696e20746f6120627269656628696e2074686567726f7570732e3b207769647468656e7a796d657373696d706c6520
  696e206c6174657b72657475726e746865726170796120706f696e7462616e6e696e67696e6b73223e0a28293b22207265
  6120706c6163655c75303033436161626f7574206174723e0d0a090963636f756e7420676976657320613c534352495054
  5261696c7761797468656d65732f746f6f6c626f784279496428227868756d616e732c77617463686573696e20736f6d65
  20696620287769636f6d696e6720666f726d61747320556e646572206275742068617368616e646564206d616465206279
  7468616e20696e66656172206f6664656e6f7465642f696672616d656c65667420696e766f6c74616765696e2065616368
  612671756f743b62617365206f66496e206d616e79756e646572676f726567696d6573616374696f6e203c2f703e0d0a3c
  7573746f6d56613b2667743b3c2f696d706f7274736f7220746861746d6f73746c792026616d703b72652073697a653d22
  3c2f613e3c2f686120636c61737370617373697665486f7374203d205768657468657266657274696c65566172696f7573
  3d5b5d3b28667563616d657261732f3e3c2f74643e61637473206173496e20736f6d653e0d0a0d0a3c216f7267616e6973
  203c6272202f3e4265696a696e67636174616cc3a0646575747363686575726f7065756575736b617261676165696c6765
  7376656e736b6165737061c3b1616d656e73616a657573756172696f74726162616a6f6dc3a97869636f70c3a167696e61
  7369656d70726573697374656d616f637475627265647572616e746561c3b161646972656d70726573616d6f6d656e746f
  6e75657374726f7072696d65726174726176c3a973677261636961736e75657374726170726f6365736f65737461646f73
  63616c69646164706572736f6e616ec3ba6d65726f6163756572646f6dc3ba736963616d69656d62726f6f666572746173
  616c67756e6f737061c3ad736573656a656d706c6f6465726563686f6164656dc3a1737072697661646f61677265676172
  656e6c61636573706f7369626c65686f74656c6573736576696c6c617072696d65726fc3ba6c74696d6f6576656e746f73
  6172636869766f63756c747572616d756a65726573656e7472616461616e756e63696f656d626172676f6d65726361646f
  6772616e6465736573747564696f6d656a6f7265736665627265726f64697365c3b16f74757269736d6f63c3b36469676f
  706f72746164616573706163696f66616d696c6961616e746f6e696f7065726d69746567756172646172616c67756e6173
  70726563696f73616c677569656e73656e7469646f7669736974617374c3ad74756c6f636f6e6f636572736567756e646f
  636f6e73656a6f6672616e6369616d696e75746f73736567756e646174656e656d6f7365666563746f736dc3a16c616761
  73657369c3b36e726576697374616772616e616461636f6d70726172696e677265736f67617263c3ad6161636369c3b36e
  65637561646f72717569656e6573696e636c75736f6465626572c3a16d617465726961686f6d627265736d756573747261
  706f6472c3ad616d61c3b1616e61c3ba6c74696d61657374616d6f736f66696369616c74616d6269656e6e696e67c3ba6e
  73616c75646f73706f64656d6f736d656a6f726172706f736974696f6e627573696e657373686f6d657061676573656375
  726974796c616e67756167657374616e6461726463616d706169676e666561747572657363617465676f72796578746572
  6e616c6368696c6472656e7265736572766564726573656172636865786368616e67656661766f7269746574656d706c61
  74656d696c6974617279696e64757374727973657276696365736d6174657269616c70726f64756374737a2d696e646578
  3a636f6d6d656e7473736f667477617265636f6d706c65746563616c656e646172706c6174666f726d61727469636c6573
  72657175697265646d6f76656d656e747175657374696f6e6275696c64696e67706f6c6974696373706f737369626c6572
  656c6967696f6e706879736963616c666565646261636b7265676973746572706963747572657364697361626c65647072
  6f746f636f6c61756469656e636573657474696e67736163746976697479656c656d656e74736c6561726e696e67616e79
  7468696e67616273747261637470726f67726573736f766572766965776d6167617a696e6565636f6e6f6d696374726169
  6e696e677072657373757265766172696f7573203c7374726f6e673e70726f706572747973686f7070696e67746f676574
  686572616476616e6365646265686176696f72646f776e6c6f61646665617475726564666f6f7462616c6c73656c656374
  65644c616e677561676564697374616e636572656d656d626572747261636b696e6770617373776f72646d6f6469666965
  6473747564656e74736469726563746c796669676874696e676e6f72746865726e6461746162617365666573746976616c
  627265616b696e676c6f636174696f6e696e7465726e657464726f70646f776e707261637469636565766964656e636566
  756e6374696f6e6d61727269616765726573706f6e736570726f626c656d736e6567617469766570726f6772616d73616e
  616c7973697372656c656173656462616e6e6572223e7075726368617365706f6c6963696573726567696f6e616c637265
  6174697665617267756d656e74626f6f6b6d61726b72656665727265726368656d6963616c6469766973696f6e63616c6c
  6261636b736570617261746570726f6a65637473636f6e666c6963746861726477617265696e74657265737464656c6976
  6572796d6f756e7461696e6f627461696e65643d2066616c73653b666f7228766172206163636570746564636170616369
  7479636f6d70757465726964656e746974796169726372616674656d706c6f79656470726f706f736564646f6d65737469
  63696e636c7564657370726f7669646564686f73706974616c766572746963616c636f6c6c61707365617070726f616368
  706172746e6572736c6f676f223e3c616461756768746572617574686f72222063756c747572616c66616d696c6965732f
  696d616765732f617373656d626c79706f77657266756c7465616368696e6766696e697368656464697374726963746372
  69746963616c6367692d62696e2f707572706f7365737265717569726573656c656374696f6e6265636f6d696e6770726f
  766964657361636164656d6963657865726369736561637475616c6c796d65646963696e65636f6e7374616e7461636369
  64656e744d6167617a696e65646f63756d656e747374617274696e67626f74746f6d223e6f627365727665643a20267175
  6f743b657874656e64656470726576696f7573536f667477617265637573746f6d65726465636973696f6e737472656e67
  746864657461696c6564736c696768746c79706c616e6e696e67746578746172656163757272656e637965766572796f6e
  6573747261696768747472616e73666572706f73697469766570726f647563656468657269746167657368697070696e67
  6162736f6c757465726563656976656472656c6576616e74627574746f6e222076696f6c656e6365616e79776865726562
  656e65666974736c61756e63686564726563656e746c79616c6c69616e6365666f6c6c6f7765646d756c7469706c656275
  6c6c6574696e696e636c756465646f63637572726564696e7465726e616c242874686973292e72657075626c69633e3c74
  723e3c7464636f6e67726573737265636f72646564756c74696d617465736f6c7574696f6e3c756c2069643d2264697363
  6f766572486f6d653c2f613e77656273697465736e6574776f726b73616c74686f756768656e746972656c796d656d6f72
  69616c6d65737361676573636f6e74696e7565616374697665223e736f6d6577686174766963746f726961576573746572
  6e20207469746c653d224c6f636174696f6e636f6e747261637476697369746f7273446f776e6c6f6164776974686f7574
  207269676874223e0a6d656173757265737769647468203d207661726961626c65696e766f6c76656476697267696e6961
  6e6f726d616c6c7968617070656e65646163636f756e74737374616e64696e676e6174696f6e616c526567697374657270
  72657061726564636f6e74726f6c736163637572617465626972746864617973747261746567796f6666696369616c6772
  6170686963736372696d696e616c706f737369626c79636f6e73756d6572506572736f6e616c737065616b696e6776616c
  696461746561636869657665642e6a706722202f3e6d616368696e65733c2f68323e0a20206b6579776f72647366726965
  6e646c7962726f7468657273636f6d62696e65646f726967696e616c636f6d706f73656465787065637465646164657175
  61746570616b697374616e666f6c6c6f77222076616c7561626c653c2f6c6162656c3e72656c61746976656272696e6769
  6e67696e637265617365676f7665726e6f72706c7567696e732f4c697374206f6620486561646572223e22206e616d653d
  2220282671756f743b67726164756174653c2f686561643e0a636f6d6d657263656d616c61797369616469726563746f72
  6d61696e7461696e3b6865696768743a7363686564756c656368616e67696e676261636b20746f20636174686f6c696370
  61747465726e73636f6c6f723a20236772656174657374737570706c69657372656c6961626c653c2f756c3e0a09093c73
  656c65637420636974697a656e73636c6f7468696e677761746368696e673c6c692069643d227370656369666963636172
  7279696e6773656e74656e63653c63656e7465723e636f6e74726173747468696e6b696e676361746368286529736f7574
  6865726e4d69636861656c206d65726368616e746361726f7573656c70616464696e673a696e746572696f722e73706c69
  7428226c697a6174696f6e4f63746f62657220297b72657475726e696d70726f7665642d2d2667743b0a0a636f76657261
  676563686169726d616e2e706e6722202f3e7375626a656374735269636861726420776861746576657270726f6261626c
  797265636f766572796261736562616c6c6a7564676d656e74636f6e6e6563742e2e63737322202f3e2077656273697465
  7265706f7274656464656661756c74222f3e3c2f613e0d0a656c65637472696373636f746c616e646372656174696f6e71
  75616e746974792e204953424e2030646964206e6f7420696e7374616e63652d7365617263682d22206c616e673d227370
  65616b657273436f6d7075746572636f6e7461696e7361726368697665736d696e69737465727265616374696f6e646973
  636f756e744974616c69616e6f63726974657269617374726f6e676c793a2027687474703a2773637269707427636f7665
  72696e676f66666572696e67617070656172656442726974697368206964656e7469667946616365626f6f6b6e756d6572
  6f757376656869636c6573636f6e6365726e73416d65726963616e68616e646c696e676469762069643d2257696c6c6961
  6d2070726f76696465725f636f6e74656e74616363757261637973656374696f6e20616e646572736f6e666c657869626c
  6543617465676f72796c617772656e63653c7363726970743e6c61796f75743d22617070726f766564206d6178696d756d
  686561646572223e3c2f7461626c653e536572766963657368616d696c746f6e63757272656e742063616e616469616e63
  68616e6e656c732f7468656d65732f2f61727469636c656f7074696f6e616c706f72747567616c76616c75653d2222696e
  74657276616c776972656c657373656e7469746c65646167656e6369657353656172636822206d6561737572656474686f
  7573616e647370656e64696e672668656c6c69703b6e65772044617465222073697a653d22706167654e616d656d696464
  6c65222022202f3e3c2f613e68696464656e223e73657175656e6365706572736f6e616c6f766572666c6f776f70696e69
  6f6e73696c6c696e6f69736c696e6b73223e0a093c7469746c653e76657273696f6e7373617475726461797465726d696e
  616c6974656d70726f70656e67696e65657273656374696f6e7364657369676e657270726f706f73616c3d2266616c7365
  2245737061c3b16f6c72656c65617365737375626d6974222065722671756f743b6164646974696f6e73796d70746f6d73
  6f7269656e7465647265736f757263657269676874223e3c706c65617375726573746174696f6e73686973746f72792e6c
  656176696e672020626f726465723d636f6e74656e747363656e746572223e2e0a0a536f6d652064697265637465647375
  697461626c6562756c67617269612e73686f7728293b64657369676e656447656e6572616c20636f6e6365707473457861
  6d706c657377696c6c69616d734f726967696e616c223e3c7370616e3e736561726368223e6f70657261746f7272657175
  6573747361202671756f743b616c6c6f77696e67446f63756d656e747265766973696f6e2e200a0a54686520796f757273
  656c66436f6e74616374206d6963686967616e456e676c69736820636f6c756d6269617072696f726974797072696e7469
  6e676472696e6b696e67666163696c69747972657475726e6564436f6e74656e74206f666669636572735275737369616e
  2067656e65726174652d383835392d3122696e64696361746566616d696c696172207175616c6974796d617267696e3a30
  20636f6e74656e7476696577706f7274636f6e74616374732d7469746c65223e706f727461626c652e6c656e6774682065
  6c696769626c65696e766f6c76657361746c616e7469636f6e6c6f61643d2264656661756c742e737570706c6965647061
  796d656e7473676c6f73736172790a0a41667465722067756964616e63653c2f74643e3c7464656e636f64696e676d6964
  646c65223e63616d6520746f20646973706c61797373636f74746973686a6f6e617468616e6d616a6f7269747977696467
  6574732e636c696e6963616c746861696c616e6474656163686572733c686561643e0a096166666563746564737570706f
  727473706f696e7465723b746f537472696e673c2f736d616c6c3e6f6b6c61686f6d6177696c6c20626520696e76657374
  6f72302220616c743d22686f6c69646179735265736f757263656c6963656e73656420287768696368202e204166746572
  20636f6e73696465727669736974696e676578706c6f7265727072696d617279207365617263682220616e64726f696422
  717569636b6c79206d656574696e6773657374696d6174653b72657475726e203b636f6c6f723a23206865696768743d61
  7070726f76616c2c202671756f743b20636865636b65642e6d696e2e6a73226d61676e657469633e3c2f613e3c2f68666f
  7265636173742e205768696c652074687572736461796476657274697365266561637574653b686173436c617373657661
  6c756174656f72646572696e676578697374696e6770617469656e7473204f6e6c696e6520636f6c6f7261646f4f707469
  6f6e732263616d7062656c6c3c212d2d20656e643c2f7370616e3e3c3c6272202f3e0d0a5f706f707570737c736369656e
  6365732c2671756f743b207175616c6974792057696e646f77732061737369676e65646865696768743a203c6220636c61
  73736c652671756f743b2076616c75653d2220436f6d70616e796578616d706c65733c696672616d652062656c69657665
  7370726573656e74736d61727368616c6c70617274206f662070726f7065726c79292e0a0a546865207461786f6e6f6d79
  6d756368206f66203c2f7370616e3e0a2220646174612d737274756775c3aa737363726f6c6c546f2070726f6a6563743c
  686561643e0d0a6174746f726e6579656d70686173697373706f6e736f727366616e6379626f78776f726c642773207769
  6c646c696665636865636b65643d73657373696f6e7370726f6772616d6d70783b666f6e742d2050726f6a6563746a6f75
  726e616c7362656c69657665647661636174696f6e74686f6d70736f6e6c69676874696e67616e64207468652073706563
  69616c20626f726465723d30636865636b696e673c2f74626f64793e3c627574746f6e20436f6d706c657465636c656172
  6669780a3c686561643e0a61727469636c65203c73656374696f6e66696e64696e6773726f6c6520696e20706f70756c61
  7220204f63746f62657277656273697465206578706f737572657573656420746f20206368616e6765736f706572617465
  64636c69636b696e67656e746572696e67636f6d6d616e6473696e666f726d6564206e756d6265727320203c2f6469763e
  6372656174696e676f6e5375626d69746d6172796c616e64636f6c6c65676573616e616c797469636c697374696e677363
  6f6e746163742e6c6f67676564496e61647669736f72797369626c696e6773636f6e74656e7422732671756f743b29732e
  2054686973207061636b61676573636865636b626f787375676765737473707265676e616e74746f6d6f72726f77737061
  63696e673d69636f6e2e706e676a6170616e657365636f646562617365627574746f6e223e67616d626c696e6773756368
  206173202c207768696c65203c2f7370616e3e206d6973736f75726973706f7274696e67746f703a317078202e3c2f7370
  616e3e74656e73696f6e7377696474683d22326c617a796c6f61646e6f76656d6265727573656420696e20686569676874
  3d226372697074223e0a266e6273703b3c2f3c74723e3c7464206865696768743a322f70726f64756374636f756e747279
  20696e636c75646520666f6f7465722220266c743b212d2d207469746c65223e3c2f6a71756572792e3c2f666f726d3e0a
  28e7ae80e4bd932928e7b981e9ab94296872766174736b696974616c69616e6f726f6dc3a26ec48374c3bc726bc3a765d8
  a7d8b1d8afd98874616d6269c3a96e6e6f7469636961736d656e73616a6573706572736f6e61736465726563686f736e61
  63696f6e616c736572766963696f636f6e746163746f7573756172696f7370726f6772616d61676f626965726e6f656d70
  7265736173616e756e63696f7376616c656e636961636f6c6f6d6269616465737075c3a9736465706f7274657370726f79
  6563746f70726f647563746f70c3ba626c69636f6e6f736f74726f73686973746f72696170726573656e74656d696c6c6f
  6e65736d656469616e746570726567756e7461616e746572696f727265637572736f7370726f626c656d6173616e746961
  676f6e75657374726f736f70696e69c3b36e696d7072696d69726d69656e74726173616dc3a97269636176656e6465646f
  72736f636965646164726573706563746f7265616c697a6172726567697374726f70616c6162726173696e746572c3a973
  656e746f6e636573657370656369616c6d69656d62726f737265616c6964616463c3b372646f62617a617261676f7a6170
  c3a167696e6173736f6369616c6573626c6f71756561726765737469c3b36e616c7175696c657273697374656d61736369
  656e63696173636f6d706c65746f7665727369c3b36e636f6d706c6574616573747564696f7370c3ba626c6963616f626a
  657469766f616c6963616e74656275736361646f7263616e7469646164656e747261646173616363696f6e657361726368
  69766f737375706572696f726d61796f72c3ad61616c656d616e696166756e6369c3b36ec3ba6c74696d6f736861636965
  6e646f617175656c6c6f736564696369c3b36e6665726e616e646f616d6269656e746566616365626f6f6b6e7565737472
  6173636c69656e74657370726f6365736f7362617374616e746570726573656e74617265706f72746172636f6e67726573
  6f7075626c69636172636f6d657263696f636f6e747261746f6ac3b376656e6573646973747269746f74c3a9636e696361
  636f6e6a756e746f656e657267c3ad6174726162616a6172617374757269617372656369656e74657574696c697a617262
  6f6c6574c3ad6e73616c7661646f72636f72726563746174726162616a6f737072696d65726f736e65676f63696f736c69
  626572746164646574616c6c657370616e74616c6c617072c3b378696d6f616c6d6572c3ad61616e696d616c6573717569
  c3a96e6573636f72617ac3b36e7365636369c3b36e62757363616e646f6f7063696f6e65736578746572696f72636f6e63
  6570746f746f646176c3ad6167616c6572c3ad6165736372696269726d65646963696e616c6963656e636961636f6e7375
  6c74616173706563746f736372c3ad7469636164c3b36c617265736a757374696369616465626572c3a16e706572c3ad6f
  646f6e656365736974616d616e74656e65727065717565c3b16f726563696269646174726962756e616c74656e65726966
  6563616e6369c3b36e63616e617269617364657363617267616469766572736f736d616c6c6f7263617265717569657265
  74c3a9636e69636f6465626572c3ad6176697669656e646166696e616e7a61736164656c616e746566756e63696f6e6163
  6f6e73656a6f73646966c3ad63696c6369756461646573616e7469677561736176616e7a61646174c3a9726d696e6f756e
  69646164657373c3a16e6368657a63616d7061c3b161736f66746f6e69637265766973746173636f6e7469656e65736563
  746f7265736d6f6d656e746f73666163756c7461646372c3a96469746f6469766572736173737570756573746f66616374
  6f726573736567756e646f737065717565c3b161d0b3d0bed0b4d0b0d0b5d181d0bbd0b8d0b5d181d182d18cd0b1d18bd0
  bbd0bed0b1d18bd182d18cd18dd182d0bed0bcd095d181d0bbd0b8d182d0bed0b3d0bed0bcd0b5d0bdd18fd0b2d181d0b5
  d185d18dd182d0bed0b9d0b4d0b0d0b6d0b5d0b1d18bd0bbd0b8d0b3d0bed0b4d183d0b4d0b5d0bdd18cd18dd182d0bed1
  82d0b1d18bd0bbd0b0d181d0b5d0b1d18fd0bed0b4d0b8d0bdd181d0b5d0b1d0b5d0bdd0b0d0b4d0bed181d0b0d0b9d182
  d184d0bed182d0bed0bdd0b5d0b3d0bed181d0b2d0bed0b8d181d0b2d0bed0b9d0b8d0b3d180d18bd182d0bed0b6d0b5d0
  b2d181d0b5d0bcd181d0b2d0bed18ed0bbd0b8d188d18cd18dd182d0b8d185d0bfd0bed0bad0b0d0b4d0bdd0b5d0b9d0b4
  d0bed0bcd0b0d0bcd0b8d180d0b0d0bbd0b8d0b1d0bed182d0b5d0bcd183d185d0bed182d18fd0b4d0b2d183d185d181d0
  b5d182d0b8d0bbd18ed0b4d0b8d0b4d0b5d0bbd0bed0bcd0b8d180d0b5d182d0b5d0b1d18fd181d0b2d0bed0b5d0b2d0b8
  d0b4d0b5d187d0b5d0b3d0bed18dd182d0b8d0bcd181d187d0b5d182d182d0b5d0bcd18bd186d0b5d0bdd18bd181d182d0
  b0d0bbd0b2d0b5d0b4d18cd182d0b5d0bcd0b5d0b2d0bed0b4d18bd182d0b5d0b1d0b5d0b2d18bd188d0b5d0bdd0b0d0bc
  d0b8d182d0b8d0bfd0b0d182d0bed0bcd183d0bfd180d0b0d0b2d0bbd0b8d186d0b0d0bed0b4d0bdd0b0d0b3d0bed0b4d1
  8bd0b7d0bdd0b0d18ed0bcd0bed0b3d183d0b4d180d183d0b3d0b2d181d0b5d0b9d0b8d0b4d0b5d182d0bad0b8d0bdd0be
  d0bed0b4d0bdd0bed0b4d0b5d0bbd0b0d0b4d0b5d0bbd0b5d181d180d0bed0bad0b8d18ed0bdd18fd0b2d0b5d181d18cd0
  95d181d182d18cd180d0b0d0b7d0b0d0bdd0b0d188d0b8d8a7d984d984d987d8a7d984d8aad98ad8acd985d98ad8b9d8ae
  d8a7d8b5d8a9d8a7d984d8b0d98ad8b9d984d98ad987d8acd8afd98ad8afd8a7d984d8a2d986d8a7d984d8b1d8afd8aad8
  add983d985d8b5d981d8add8a9d983d8a7d986d8aad8a7d984d984d98ad98ad983d988d986d8b4d8a8d983d8a9d981d98a
  d987d8a7d8a8d986d8a7d8aad8add988d8a7d8a1d8a3d983d8abd8b1d8aed984d8a7d984d8a7d984d8add8a8d8afd984d9
  8ad984d8afd8b1d988d8b3d8a7d8b6d8bad8b7d8aad983d988d986d987d986d8a7d983d8b3d8a7d8add8a9d986d8a7d8af
  d98ad8a7d984d8b7d8a8d8b9d984d98ad983d8b4d983d8b1d8a7d98ad985d983d986d985d986d987d8a7d8b4d8b1d983d8
  a9d8b1d8a6d98ad8b3d986d8b4d98ad8b7d985d8a7d8b0d8a7d8a7d984d981d986d8b4d8a8d8a7d8a8d8aad8b9d8a8d8b1
  d8b1d8add985d8a9d983d8a7d981d8a9d98ad982d988d984d985d8b1d983d8b2d983d984d985d8a9d8a3d8add985d8afd9
  82d984d8a8d98ad98ad8b9d986d98ad8b5d988d8b1d8a9d8b7d8b1d98ad982d8b4d8a7d8b1d983d8acd988d8a7d984d8a3
  d8aed8b1d989d985d8b9d986d8a7d8a7d8a8d8add8abd8b9d8b1d988d8b6d8a8d8b4d983d984d985d8b3d8acd984d8a8d9
  86d8a7d986d8aed8a7d984d8afd983d8aad8a7d8a8d983d984d98ad8a9d8a8d8afd988d986d8a3d98ad8b6d8a7d98ad988
  d8acd8afd981d8b1d98ad982d983d8aad8a8d8aad8a3d981d8b6d984d985d8b7d8a8d8aed8a7d983d8abd8b1d8a8d8a7d8
  b1d983d8a7d981d8b6d984d8a7d8add984d989d986d981d8b3d987d8a3d98ad8a7d985d8b1d8afd988d8afd8a3d986d987
  d8a7d8afd98ad986d8a7d8a7d984d8a7d986d985d8b9d8b1d8b6d8aad8b9d984d985d8afd8a7d8aed984d985d985d983d9
  86000000000000000001000100010001000200020002000200040004000400040000010203040506070706050403020100
  08090a0b0c0d0e0f0f0e0d0c0b0a09081011121314151617171615141312111018191a1b1c1d1e1f1f1e1d1c1b1a1918ff
  ffffff0000000000000000ffffffff010000000200000002000000010000000100000003000000ffff0001000000010000
  ffff000100000008000800080008000000010002000300040005000600077265736f7572636573636f756e747269657371
  75657374696f6e7365717569706d656e74636f6d6d756e697479617661696c61626c65686967686c696768744454442f78
  68746d6c6d61726b6574696e676b6e6f776c65646765736f6d657468696e67636f6e7461696e6572646972656374696f6e
  737562736372696265616476657274697365636861726163746572222076616c75653d223c2f73656c6563743e41757374
  72616c69612220636c6173733d22736974756174696f6e617574686f72697479666f6c6c6f77696e677072696d6172696c
  796f7065726174696f6e6368616c6c656e6765646576656c6f706564616e6f6e796d6f757366756e6374696f6e2066756e
  6374696f6e73636f6d70616e69657373747275637475726561677265656d656e7422207469746c653d22706f74656e7469
  616c656475636174696f6e617267756d656e74737365636f6e64617279636f707972696768746c616e6775616765736578
  636c7573697665636f6e646974696f6e3c2f666f726d3e0d0a73746174656d656e74617474656e74696f6e42696f677261
  7068797d20656c7365207b0a736f6c7574696f6e737768656e2074686520416e616c797469637374656d706c6174657364
  616e6765726f7573736174656c6c697465646f63756d656e74737075626c6973686572696d706f7274616e7470726f746f
  74797065696e666c75656e636526726171756f3b3c2f65666665637469766567656e6572616c6c797472616e73666f726d
  62656175746966756c7472616e73706f72746f7267616e697a65647075626c697368656470726f6d696e656e74756e7469
  6c207468657468756d626e61696c4e6174696f6e616c202e666f63757328293b6f76657220746865206d6967726174696f
  6e616e6e6f756e636564666f6f746572223e0a657863657074696f6e6c657373207468616e657870656e73697665666f72
  6d6174696f6e6672616d65776f726b7465727269746f72796e6469636174696f6e63757272656e746c79636c6173734e61
  6d6563726974696369736d747261646974696f6e656c73657768657265416c6578616e6465726170706f696e7465646d61
  74657269616c7362726f6164636173746d656e74696f6e6564616666696c696174653c2f6f7074696f6e3e74726561746d
  656e74646966666572656e742f64656661756c742e507265736964656e746f6e636c69636b3d2262696f6772617068796f
  74686572776973657065726d616e656e744672616ec3a7616973486f6c6c79776f6f64657870616e73696f6e7374616e64
  617264733c2f7374796c653e0a726564756374696f6e446563656d6265722070726566657272656443616d627269646765
  6f70706f6e656e7473427573696e65737320636f6e667573696f6e3e0a3c7469746c653e70726573656e7465646578706c
  61696e6564646f6573206e6f7420776f726c6477696465696e74657266616365706f736974696f6e736e65777370617065
  723c2f7461626c653e0a6d6f756e7461696e736c696b652074686520657373656e7469616c66696e616e6369616c73656c
  656374696f6e616374696f6e3d222f6162616e646f6e6564456475636174696f6e7061727365496e742873746162696c69
  7479756e61626c6520746f3c2f7469746c653e0a72656c6174696f6e734e6f74652074686174656666696369656e747065
  72666f726d656474776f20796561727353696e6365207468657468657265666f726577726170706572223e616c7465726e
  617465696e63726561736564426174746c65206f66706572636569766564747279696e6720746f6e656365737361727970
  6f72747261796564656c656374696f6e73456c697a61626574683c2f696672616d653e646973636f76657279696e737572
  616e6365732e6c656e6774683b6c6567656e6461727947656f67726170687963616e646964617465636f72706f72617465
  736f6d6574696d657373657276696365732e696e686572697465643c2f7374726f6e673e436f6d6d756e69747972656c69
  67696f75736c6f636174696f6e73436f6d6d69747465656275696c64696e677374686520776f726c646e6f206c6f6e6765
  72626567696e6e696e677265666572656e636563616e6e6f742062656672657175656e63797479706963616c6c79696e74
  6f207468652072656c61746976653b7265636f7264696e67707265736964656e74696e697469616c6c79746563686e6971
  7565746865206f7468657269742063616e2062656578697374656e6365756e6465726c696e65746869732074696d657465
  6c6570686f6e656974656d73636f7065707261637469636573616476616e74616765293b72657475726e20466f72206f74
  68657270726f766964696e6764656d6f6372616379626f74682074686520657874656e73697665737566666572696e6773
  7570706f72746564636f6d7075746572732066756e6374696f6e70726163746963616c7361696420746861746974206d61
  79206265456e676c6973683c2f66726f6d20746865207363686564756c6564646f776e6c6f6164733c2f6c6162656c3e0a
  7375737065637465646d617267696e3a203073706972697475616c3c2f686561643e0a0a6d6963726f736f667467726164
  75616c6c79646973637573736564686520626563616d656578656375746976656a71756572792e6a73686f757365686f6c
  64636f6e6669726d65647075726368617365646c69746572616c6c7964657374726f796564757020746f20746865766172
  696174696f6e72656d61696e696e676974206973206e6f7463656e7475726965734a6170616e65736520616d6f6e672074
  6865636f6d706c65746564616c676f726974686d696e74657265737473726562656c6c696f6e756e646566696e6564656e
  636f7572616765726573697a61626c65696e766f6c76696e6773656e736974697665756e6976657273616c70726f766973
  696f6e28616c74686f756768666561747572696e67636f6e647563746564292c20776869636820636f6e74696e7565642d
  686561646572223e4665627275617279206e756d65726f7573206f766572666c6f773a636f6d706f6e656e74667261676d
  656e7473657863656c6c656e74636f6c7370616e3d22746563686e6963616c6e6561722074686520416476616e63656420
  736f75726365206f66657870726573736564486f6e67204b6f6e672046616365626f6f6b6d756c7469706c65206d656368
  616e69736d656c65766174696f6e6f6666656e736976653c2f666f726d3e0a0973706f6e736f726564646f63756d656e74
  2e6f72202671756f743b74686572652061726574686f73652077686f6d6f76656d656e747370726f636573736573646966
  666963756c747375626d69747465647265636f6d6d656e64636f6e76696e63656470726f6d6f74696e6722207769647468
  3d222e7265706c61636528636c6173736963616c636f616c6974696f6e6869732066697273746465636973696f6e736173
  73697374616e74696e6469636174656465766f6c7574696f6e2d7772617070657222656e6f75676820746f616c6f6e6720
  74686564656c6976657265642d2d3e0d0a3c212d2d416d65726963616e2070726f7465637465644e6f76656d626572203c
  2f7374796c653e3c6675726e6974757265496e7465726e657420206f6e626c75723d2273757370656e6465647265636970
  69656e746261736564206f6e204d6f72656f7665722c61626f6c6973686564636f6c6c656374656477657265206d616465
  656d6f74696f6e616c656d657267656e63796e61727261746976656164766f636174657370783b626f72646572636f6d6d
  69747465646469723d226c747222656d706c6f7965657372657365617263682e2073656c6563746564737563636573736f
  72637573746f6d657273646973706c6179656453657074656d626572616464436c6173732846616365626f6f6b20737567
  676573746564616e64206c617465726f7065726174696e67656c61626f72617465536f6d6574696d6573496e7374697475
  74656365727461696e6c79696e7374616c6c6564666f6c6c6f776572734a65727573616c656d746865792068617665636f
  6d707574696e6767656e65726174656470726f76696e63657367756172616e7465656172626974726172797265636f676e
  697a6577616e74656420746f70783b77696474683a7468656f7279206f666265686176696f75725768696c652074686565
  7374696d61746564626567616e20746f20697420626563616d656d61676e69747564656d75737420686176656d6f726520
  7468616e4469726563746f7279657874656e73696f6e7365637265746172796e61747572616c6c796f6363757272696e67
  7661726961626c6573676976656e20746865706c6174666f726d2e3c2f6c6162656c3e3c6661696c656420746f636f6d70
  6f756e64736b696e6473206f6620736f63696574696573616c6f6e6773696465202d2d2667743b0a0a736f757468776573
  74746865207269676874726164696174696f6e6d6179206861766520756e6573636170652873706f6b656e20696e222068
  7265663d222f70726f6772616d6d656f6e6c792074686520636f6d652066726f6d6469726563746f727962757269656420
  696e612073696d696c61727468657920776572653c2f666f6e743e3c2f4e6f7277656769616e7370656369666965647072
  6f647563696e6770617373656e676572286e6577204461746574656d706f7261727966696374696f6e616c416674657220
  7468656571756174696f6e73646f776e6c6f61642e726567756c61726c79646576656c6f70657261626f7665207468656c
  696e6b656420746f7068656e6f6d656e61706572696f64206f66746f6f6c746970223e7375627374616e63656175746f6d
  61746963617370656374206f66416d6f6e6720746865636f6e6e6563746564657374696d6174657341697220466f726365
  73797374656d206f666f626a656374697665696d6d6564696174656d616b696e672069747061696e74696e6773636f6e71
  7565726564617265207374696c6c70726f63656475726567726f777468206f666865616465642062794575726f7065616e
  206469766973696f6e736d6f6c6563756c65736672616e6368697365696e74656e74696f6e617474726163746564636869
  6c64686f6f64616c736f207573656464656469636174656473696e6761706f7265646567726565206f6666617468657220
  6f66636f6e666c696374733c2f613e3c2f703e0a63616d652066726f6d7765726520757365646e6f746520746861747265
  63656976696e674578656375746976656576656e206d6f726561636365737320746f636f6d6d616e646572506f6c697469
  63616c6d7573696369616e7364656c6963696f7573707269736f6e657273616476656e74206f665554462d3822202f3e3c
  215b43444154415b223e436f6e74616374536f75746865726e206267636f6c6f723d22736572696573206f662e20497420
  77617320696e204575726f70657065726d697474656476616c69646174652e617070656172696e676f6666696369616c73
  736572696f75736c792d6c616e6775616765696e69746961746564657874656e64696e676c6f6e672d7465726d696e666c
  6174696f6e737563682074686174676574436f6f6b69656d61726b65642062793c2f627574746f6e3e696d706c656d656e
  74627574206974206973696e63726561736573646f776e2074686520726571756972696e67646570656e64656e742d2d3e
  0a3c212d2d20696e74657276696577576974682074686520636f70696573206f66636f6e73656e73757377617320627569
  6c7456656e657a75656c6128666f726d65726c79746865207374617465706572736f6e6e656c7374726174656769636661
  766f7572206f66696e76656e74696f6e57696b697065646961636f6e74696e656e747669727475616c6c79776869636820
  7761737072696e6369706c65436f6d706c657465206964656e746963616c73686f7720746861747072696d697469766561
  7761792066726f6d6d6f6c6563756c6172707265636973656c79646973736f6c766564556e646572207468657665727369
  6f6e3d223e266e6273703b3c2f49742069732074686520546869732069732077696c6c20686176656f7267616e69736d73
  736f6d652074696d65467269656472696368776173206669727374746865206f6e6c7920666163742074686174666f726d
  2069643d22707265636564696e67546563686e6963616c7068797369636973746f636375727320696e6e6176696761746f
  7273656374696f6e223e7370616e2069643d22736f7567687420746f62656c6f7720746865737572766976696e677d3c2f
  7374796c653e686973206465617468617320696e207468656361757365642062797061727469616c6c796578697374696e
  67207573696e672074686577617320676976656e61206c697374206f666c6576656c73206f666e6f74696f6e206f664f66
  66696369616c206469736d6973736564736369656e74697374726573656d626c65736475706c69636174656578706c6f73
  6976657265636f7665726564616c6c206f7468657267616c6c65726965737b70616464696e673a70656f706c65206f6672
  6567696f6e206f666164647265737365736173736f6369617465696d6720616c743d22696e206d6f6465726e73686f756c
  642062656d6574686f64206f667265706f7274696e6774696d657374616d706e656564656420746f746865204772656174
  726567617264696e677365656d656420746f766965776564206173696d70616374206f6e69646561207468617474686520
  576f726c64686569676874206f66657870616e64696e6754686573652061726563757272656e74223e6361726566756c6c
  796d61696e7461696e73636861726765206f66436c6173736963616c6164647265737365647072656469637465646f776e
  6572736869703c6469762069643d227269676874223e0d0a7265736964656e63656c6561766520746865636f6e74656e74
  223e617265206f6674656e20207d2928293b0d0a70726f6261626c792050726f666573736f722d627574746f6e22207265
  73706f6e64656473617973207468617468616420746f206265706c6163656420696e48756e67617269616e737461747573
  206f66736572766573206173556e6976657273616c657865637574696f6e616767726567617465666f7220776869636869
  6e66656374696f6e61677265656420746f686f77657665722c20706f70756c6172223e706c61636564206f6e636f6e7374
  72756374656c6563746f72616c73796d626f6c206f66696e636c7564696e6772657475726e20746f617263686974656374
  43687269737469616e70726576696f7573206c6976696e6720696e65617369657220746f70726f666573736f720a266c74
  3b212d2d20656666656374206f66616e616c79746963737761732074616b656e776865726520746865746f6f6b206f7665
  7262656c69656620696e416672696b61616e7361732066617220617370726576656e746564776f726b2077697468612073
  70656369616c3c6669656c647365744368726973746d61735265747269657665640a0a496e20746865206261636b20696e
  746f6e6f727468656173746d6167617a696e65733e3c7374726f6e673e636f6d6d6974746565676f7665726e696e676772
  6f757073206f6673746f72656420696e65737461626c697368612067656e6572616c697473206669727374746865697220
  6f776e706f70756c61746564616e206f626a65637443617269626265616e616c6c6f772074686564697374726963747377
  6973636f6e73696e6c6f636174696f6e2e3b2077696474683a20696e68616269746564536f6369616c6973744a616e7561
  727920313c2f666f6f7465723e73696d696c61726c7963686f696365206f667468652073616d6520737065636966696320
  627573696e657373205468652066697273742e6c656e6774683b2064657369726520746f6465616c207769746873696e63
  6520746865757365724167656e74636f6e636569766564696e6465782e7068706173202671756f743b656e676167652069
  6e726563656e746c792c6665772079656172737765726520616c736f0a3c686561643e0a3c656469746564206279617265
  206b6e6f776e63697469657320696e6163636573736b6579636f6e64656d6e6564616c736f206861766573657276696365
  732c66616d696c79206f665363686f6f6c206f66636f6e7665727465646e6174757265206f66206c616e67756167656d69
  6e6973746572733c2f6f626a6563743e7468657265206973206120706f70756c617273657175656e6365736164766f6361
  746564546865792077657265616e79206f746865726c6f636174696f6e3d656e746572207468656d756368206d6f726572
  65666c6563746564776173206e616d65646f726967696e616c2061207479706963616c7768656e2074686579656e67696e
  65657273636f756c64206e6f747265736964656e74737765646e65736461797468652074686972642070726f6475637473
  4a616e75617279203277686174207468657961206365727461696e7265616374696f6e7370726f636573736f7261667465
  7220686973746865206c61737420636f6e7461696e6564223e3c2f6469763e0a3c2f613e3c2f74643e646570656e64206f
  6e736561726368223e0a706965636573206f66636f6d706574696e675265666572656e636574656e6e6573736565776869
  6368206861732076657273696f6e3d3c2f7370616e3e203c3c2f6865616465723e676976657320746865686973746f7269
  616e76616c75653d22223e70616464696e673a30766965772074686174746f6765746865722c746865206d6f7374207761
  7320666f756e64737562736574206f6661747461636b206f6e6368696c6472656e2c706f696e7473206f66706572736f6e
  616c20706f736974696f6e3a616c6c656765646c79436c6576656c616e64776173206c61746572616e6420616674657261
  726520676976656e776173207374696c6c7363726f6c6c696e6764657369676e206f666d616b6573207468656d75636820
  6c657373416d65726963616e732e0a0a4166746572202c20627574207468654d757365756d206f666c6f75697369616e61
  2866726f6d207468656d696e6e65736f74617061727469636c6573612070726f63657373446f6d696e6963616e766f6c75
  6d65206f6672657475726e696e67646566656e73697665303070787c726967686d6164652066726f6d6d6f7573656f7665
  7222207374796c653d22737461746573206f66287768696368206973636f6e74696e7565734672616e636973636f627569
  6c64696e6720776974686f757420617769746820736f6d6577686f20776f756c646120666f726d206f6661207061727420
  6f666265666f72652069746b6e6f776e206173202053657276696365736c6f636174696f6e20616e64206f6674656e6d65
  61737572696e67616e6420697420697370617065726261636b76616c756573206f660d0a3c7469746c653e3d2077696e64
  6f772e64657465726d696e6565722671756f743b20706c61796564206279616e64206561726c793c2f63656e7465723e66
  726f6d2074686973746865207468726565706f77657220616e646f66202671756f743b696e6e657248544d4c3c61206872
  65663d22793a696e6c696e653b436875726368206f66746865206576656e747665727920686967686f6666696369616c20
  2d6865696768743a20636f6e74656e743d222f6367692d62696e2f746f20637265617465616672696b61616e7365737065
  72616e746f6672616ec3a76169736c6174766965c5a1756c696574757669c5b3c48c65c5a174696e61c48d65c5a174696e
  61e0b984e0b897e0b8a2e697a5e69cace8aa9ee7ae80e4bd93e5ad97e7b981e9ab94e5ad97ed959ceab5adec96b4e4b8ba
  e4bb80e4b988e8aea1e7ae97e69cbae7ac94e8aeb0e69cace8a88ee8ab96e58d80e69c8de58aa1e599a8e4ba92e88194e7
  bd91e688bfe59cb0e4baa7e4bfb1e4b990e983a8e587bae78988e7a4bee68e92e8a18ce6a69ce983a8e890bde6a0bce8bf
  9be4b880e6ada5e694afe4bb98e5ae9de9aa8ce8af81e7a081e5a794e59198e4bc9ae695b0e68daee5ba93e6b688e8b4b9
  e88085e58a9ee585ace5aea4e8aea8e8aebae58cbae6b7b1e59cb3e5b882e692ade694bee599a8e58c97e4baace5b882e5
  a4a7e5ada6e7949fe8b68ae69da5e8b68ae7aea1e79086e59198e4bfa1e681afe7bd91736572766963696f73617274c3ad
  63756c6f617267656e74696e6162617263656c6f6e616375616c71756965727075626c696361646f70726f647563746f73
  706f6cc3ad7469636172657370756573746177696b6970656469617369677569656e746562c3ba737175656461636f6d75
  6e696461647365677572696461647072696e636970616c70726567756e746173636f6e74656e69646f726573706f6e6465
  7276656e657a75656c6170726f626c656d617364696369656d62726572656c616369c3b36e6e6f7669656d62726573696d
  696c6172657370726f796563746f7370726f6772616d6173696e7374697475746f616374697669646164656e6375656e74
  726165636f6e6f6dc3ad61696dc3a167656e6573636f6e7461637461726465736361726761726e656365736172696f6174
  656e6369c3b36e74656cc3a9666f6e6f636f6d697369c3b36e63616e63696f6e6573636170616369646164656e636f6e74
  726172616ec3a16c697369736661766f7269746f7374c3a9726d696e6f7370726f76696e63696165746971756574617365
  6c656d656e746f7366756e63696f6e6573726573756c7461646f636172c3a16374657270726f7069656461647072696e63
  6970696f6e65636573696461646d756e69636970616c637265616369c3b36e64657363617267617370726573656e636961
  636f6d65726369616c6f70696e696f6e6573656a6572636963696f656469746f7269616c73616c616d616e6361676f6e7a
  c3a16c657a646f63756d656e746f70656cc3ad63756c6172656369656e74657367656e6572616c65737461727261676f6e
  617072c3a163746963616e6f7665646164657370726f70756573746170616369656e74657374c3a9636e696361736f626a
  657469766f73636f6e746163746f73e0a4aee0a587e0a482e0a4b2e0a4bfe0a48fe0a4b9e0a588e0a482e0a497e0a4afe0
  a4bee0a4b8e0a4bee0a4a5e0a48fe0a4b5e0a482e0a4b0e0a4b9e0a587e0a495e0a58be0a488e0a495e0a581e0a49be0a4
  b0e0a4b9e0a4bee0a4ace0a4bee0a4a6e0a495e0a4b9e0a4bee0a4b8e0a4ade0a580e0a4b9e0a581e0a48fe0a4b0e0a4b9
  e0a580e0a4aee0a588e0a482e0a4a6e0a4bfe0a4a8e0a4ace0a4bee0a4a46469706c6f646f6373e0a4b8e0a4aee0a4afe0
  a4b0e0a582e0a4aae0a4a8e0a4bee0a4aee0a4aae0a4a4e0a4bee0a4abe0a4bfe0a4b0e0a494e0a4b8e0a4a4e0a4a4e0a4
  b0e0a4b9e0a4b2e0a58be0a497e0a4b9e0a581e0a486e0a4ace0a4bee0a4b0e0a4a6e0a587e0a4b6e0a4b9e0a581e0a488
  e0a496e0a587e0a4b2e0a4afe0a4a6e0a4bfe0a495e0a4bee0a4aee0a4b5e0a587e0a4ace0a4a4e0a580e0a4a8e0a4ace0
  a580e0a49ae0a4aee0a58ce0a4a4e0a4b8e0a4bee0a4b2e0a4b2e0a587e0a496e0a49ce0a589e0a4ace0a4aee0a4a6e0a4
  a6e0a4a4e0a4a5e0a4bee0a4a8e0a4b9e0a580e0a4b6e0a4b9e0a4b0e0a485e0a4b2e0a497e0a495e0a4ade0a580e0a4a8
  e0a497e0a4b0e0a4aae0a4bee0a4b8e0a4b0e0a4bee0a4a4e0a495e0a4bfe0a48fe0a489e0a4b8e0a587e0a497e0a4afe0
  a580e0a4b9e0a582e0a481e0a486e0a497e0a587e0a49fe0a580e0a4aee0a496e0a58be0a49ce0a495e0a4bee0a4b0e0a4
  85e0a4ade0a580e0a497e0a4afe0a587e0a4a4e0a581e0a4aee0a4b5e0a58be0a49fe0a4a6e0a587e0a482e0a485e0a497
  e0a4b0e0a490e0a4b8e0a587e0a4aee0a587e0a4b2e0a4b2e0a497e0a4bee0a4b9e0a4bee0a4b2e0a48ae0a4aae0a4b0e0
  a49ae0a4bee0a4b0e0a490e0a4b8e0a4bee0a4a6e0a587e0a4b0e0a49ce0a4bfe0a4b8e0a4a6e0a4bfe0a4b2e0a4ace0a4
  82e0a4a6e0a4ace0a4a8e0a4bee0a4b9e0a582e0a482e0a4b2e0a4bee0a496e0a49ce0a580e0a4a4e0a4ace0a49fe0a4a8
  e0a4aee0a4bfe0a4b2e0a487e0a4b8e0a587e0a486e0a4a8e0a587e0a4a8e0a4afe0a4bee0a495e0a581e0a4b2e0a4b2e0
  a589e0a497e0a4ade0a4bee0a497e0a4b0e0a587e0a4b2e0a49ce0a497e0a4b9e0a4b0e0a4bee0a4aee0a4b2e0a497e0a5
  87e0a4aae0a587e0a49ce0a4b9e0a4bee0a4a5e0a487e0a4b8e0a580e0a4b8e0a4b9e0a580e0a495e0a4b2e0a4bee0a4a0
  e0a580e0a495e0a4b9e0a4bee0a481e0a4a6e0a582e0a4b0e0a4a4e0a4b9e0a4a4e0a4b8e0a4bee0a4a4e0a4afe0a4bee0
  a4a6e0a486e0a4afe0a4bee0a4aae0a4bee0a495e0a495e0a58ce0a4a8e0a4b6e0a4bee0a4aee0a4a6e0a587e0a496e0a4
  afe0a4b9e0a580e0a4b0e0a4bee0a4afe0a496e0a581e0a4a6e0a4b2e0a497e0a58063617465676f726965736578706572
  69656e63653c2f7469746c653e0d0a436f70797269676874206a617661736372697074636f6e646974696f6e7365766572
  797468696e673c7020636c6173733d22746563686e6f6c6f67796261636b67726f756e643c6120636c6173733d226d616e
  6167656d656e7426636f70793b203230316a6176615363726970746368617261637465727362726561646372756d627468
  656d73656c766573686f72697a6f6e74616c676f7665726e6d656e7443616c69666f726e69616163746976697469657364
  6973636f76657265644e617669676174696f6e7472616e736974696f6e636f6e6e656374696f6e6e617669676174696f6e
  617070656172616e63653c2f7469746c653e3c6d636865636b626f782220746563686e697175657370726f74656374696f
  6e6170706172656e746c7961732077656c6c206173756e74272c202755412d7265736f6c7574696f6e6f7065726174696f
  6e7374656c65766973696f6e7472616e736c6174656457617368696e67746f6e6e6176696761746f722e203d2077696e64
  6f772e696d7072657373696f6e266c743b62722667743b6c697465726174757265706f70756c6174696f6e6267636f6c6f
  723d2223657370656369616c6c7920636f6e74656e743d2270726f64756374696f6e6e6577736c657474657270726f7065
  7274696573646566696e6974696f6e6c656164657273686970546563686e6f6c6f67795061726c69616d656e74636f6d70
  617269736f6e756c20636c6173733d222e696e6465784f662822636f6e636c7573696f6e64697363757373696f6e636f6d
  706f6e656e747362696f6c6f676963616c5265766f6c7574696f6e5f636f6e7461696e6572756e64657273746f6f646e6f
  7363726970743e3c7065726d697373696f6e65616368206f7468657261746d6f737068657265206f6e666f6375733d223c
  666f726d2069643d2270726f63657373696e67746869732e76616c756567656e65726174696f6e436f6e666572656e6365
  73756273657175656e7477656c6c2d6b6e6f776e766172696174696f6e7372657075746174696f6e7068656e6f6d656e6f
  6e6469736369706c696e656c6f676f2e706e67222028646f63756d656e742c626f756e6461726965736578707265737369
  6f6e736574746c656d656e744261636b67726f756e646f7574206f6620746865656e746572707269736528226874747073
  3a2220756e657363617065282270617373776f7264222064656d6f6372617469633c6120687265663d222f777261707065
  72223e0a6d656d626572736869706c696e6775697374696370783b70616464696e677068696c6f736f7068796173736973
  74616e6365756e6976657273697479666163696c69746965737265636f676e697a6564707265666572656e636569662028
  747970656f666d61696e7461696e6564766f636162756c6172796879706f7468657369732e7375626d697428293b26616d
  703b6e6273703b616e6e6f746174696f6e626568696e6420746865466f756e646174696f6e7075626c6973686572226173
  73756d7074696f6e696e74726f6475636564636f7272757074696f6e736369656e74697374736578706c696369746c7969
  6e7374656164206f6664696d656e73696f6e73206f6e436c69636b3d22636f6e736964657265646465706172746d656e74
  6f636375706174696f6e736f6f6e206166746572696e766573746d656e7470726f6e6f756e6365646964656e7469666965
  646578706572696d656e744d616e6167656d656e7467656f6772617068696322206865696768743d226c696e6b2072656c
  3d222e7265706c616365282f64657072657373696f6e636f6e666572656e636570756e6973686d656e74656c696d696e61
  746564726573697374616e636561646170746174696f6e6f70706f736974696f6e77656c6c206b6e6f776e737570706c65
  6d656e7464657465726d696e6564683120636c6173733d223070783b6d617267696e6d656368616e6963616c7374617469
  737469637363656c65627261746564476f7665726e6d656e740a0a447572696e672074646576656c6f7065727361727469
  66696369616c6571756976616c656e746f726967696e61746564436f6d6d697373696f6e6174746163686d656e743c7370
  616e2069643d22746865726520776572654e656465726c616e64736265796f6e6420746865726567697374657265646a6f
  75726e616c6973746672657175656e746c79616c6c206f66207468656c616e673d22656e22203c2f7374796c653e0d0a61
  62736f6c7574653b20737570706f7274696e6765787472656d656c79206d61696e73747265616d3c2f7374726f6e673e20
  706f70756c6172697479656d706c6f796d656e743c2f7461626c653e0d0a20636f6c7370616e3d223c2f666f726d3e0a20
  20636f6e76657273696f6e61626f757420746865203c2f703e3c2f6469763e696e746567726174656422206c616e673d22
  656e506f727475677565736573756273746974757465696e646976696475616c696d706f737369626c656d756c74696d65
  646961616c6d6f737420616c6c707820736f6c6964202361706172742066726f6d7375626a65637420746f696e20456e67
  6c697368637269746963697a656465786365707420666f7267756964656c696e65736f726967696e616c6c7972656d6172
  6b61626c65746865207365636f6e64683220636c6173733d223c61207469746c653d2228696e636c7564696e6770617261
  6d657465727370726f686962697465643d2022687474703a2f2f64696374696f6e61727970657263657074696f6e726576
  6f6c7574696f6e666f756e646174696f6e70783b6865696768743a7375636365737366756c737570706f72746572736d69
  6c6c656e6e69756d68697320666174686572746865202671756f743b6e6f2d7265706561743b636f6d6d65726369616c69
  6e647573747269616c656e636f757261676564616d6f756e74206f6620756e6f6666696369616c656666696369656e6379
  5265666572656e636573636f6f7264696e617465646973636c61696d657265787065646974696f6e646576656c6f70696e
  6763616c63756c6174656473696d706c69666965646c65676974696d617465737562737472696e6728302220636c617373
  3d22636f6d706c6574656c79696c6c7573747261746566697665207965617273696e737472756d656e745075626c697368
  696e67312220636c6173733d2270737963686f6c6f6779636f6e666964656e63656e756d626572206f6620616273656e63
  65206f66666f6375736564206f6e6a6f696e6564207468657374727563747572657370726576696f75736c793e3c2f6966
  72616d653e6f6e636520616761696e62757420726174686572696d6d696772616e74736f6620636f757273652c61206772
  6f7570206f664c697465726174757265556e6c696b65207468653c2f613e266e6273703b0a66756e6374696f6e20697420
  77617320746865436f6e76656e74696f6e6175746f6d6f62696c6550726f74657374616e74616767726573736976656166
  746572207468652053696d696c61726c792c22202f3e3c2f6469763e636f6c6c656374696f6e0d0a66756e6374696f6e76
  69736962696c69747974686520757365206f66766f6c756e746565727361747472616374696f6e756e6465722074686520
  746872656174656e65642a3c215b43444154415b696d706f7274616e6365696e2067656e6572616c746865206c61747465
  723c2f666f726d3e0a3c2f2e696e6465784f66282769203d20303b2069203c646966666572656e63656465766f74656420
  746f747261646974696f6e7373656172636820666f72756c74696d6174656c79746f75726e616d656e7461747472696275
  746573736f2d63616c6c6564207d0a3c2f7374796c653e6576616c756174696f6e656d70686173697a6564616363657373
  69626c653c2f73656374696f6e3e73756363657373696f6e616c6f6e6720776974684d65616e7768696c652c696e647573
  74726965733c2f613e3c6272202f3e686173206265636f6d6561737065637473206f6654656c65766973696f6e73756666
  696369656e746261736b657462616c6c626f7468207369646573636f6e74696e75696e67616e2061727469636c653c696d
  6720616c743d22616476656e7475726573686973206d6f746865726d616e636865737465727072696e6369706c65737061
  72746963756c6172636f6d6d656e7461727965666665637473206f666465636964656420746f223e3c7374726f6e673e70
  75626c6973686572734a6f75726e616c206f66646966666963756c7479666163696c697461746561636365707461626c65
  7374796c652e637373220966756e6374696f6e20696e6e6f766174696f6e3e436f70797269676874736974756174696f6e
  73776f756c642068617665627573696e657373657344696374696f6e61727973746174656d656e74736f6674656e207573
  656470657273697374656e74696e204a616e75617279636f6d70726973696e673c2f7469746c653e0a096469706c6f6d61
  746963636f6e7461696e696e67706572666f726d696e67657874656e73696f6e736d6179206e6f74206265636f6e636570
  74206f66206f6e636c69636b3d22497420697320616c736f66696e616e6369616c206d616b696e67207468654c7578656d
  626f7572676164646974696f6e616c6172652063616c6c6564656e676167656420696e2273637269707422293b62757420
  697420776173656c656374726f6e69636f6e7375626d69743d220a3c212d2d20456e6420656c656374726963616c6f6666
  696369616c6c7973756767657374696f6e746f70206f6620746865756e6c696b65207468654175737472616c69616e4f72
  6967696e616c6c797265666572656e6365730a3c2f686561643e0d0a7265636f676e69736564696e697469616c697a656c
  696d6974656420746f416c6578616e647269617265746972656d656e74416476656e7475726573666f7572207965617273
  0a0a266c743b212d2d20696e6372656173696e676465636f726174696f6e683320636c6173733d226f726967696e73206f
  666f626c69676174696f6e726567756c6174696f6e636c61737369666965642866756e6374696f6e28616476616e746167
  65736265696e672074686520686973746f7269616e733c62617365206872656672657065617465646c7977696c6c696e67
  20746f636f6d70617261626c6564657369676e617465646e6f6d696e6174696f6e66756e6374696f6e616c696e73696465
  20746865726576656c6174696f6e656e64206f66207468657320666f722074686520617574686f72697a65647265667573
  656420746f74616b6520706c6163656175746f6e6f6d6f7573636f6d70726f6d697365706f6c69746963616c2072657374
  617572616e7474776f206f6620746865466562727561727920327175616c697479206f667377666f626a6563742e756e64
  65727374616e646e6561726c7920616c6c7772697474656e206279696e7465727669657773222077696474683d22317769
  746864726177616c666c6f61743a6c656674697320757375616c6c7963616e646964617465736e6577737061706572736d
  7973746572696f75734465706172746d656e7462657374206b6e6f776e7061726c69616d656e7473757070726573736564
  636f6e76656e69656e7472656d656d6265726564646966666572656e742073797374656d61746963686173206c65642074
  6f70726f706167616e6461636f6e74726f6c6c6564696e666c75656e636573636572656d6f6e69616c70726f636c61696d
  656450726f74656374696f6e6c6920636c6173733d22536369656e7469666963636c6173733d226e6f2d74726164656d61
  726b736d6f7265207468616e20776964657370726561644c696265726174696f6e746f6f6b20706c616365646179206f66
  207468656173206c6f6e67206173696d707269736f6e65644164646974696f6e616c0a3c686561643e0a3c6d4c61626f72
  61746f72794e6f76656d6265722032657863657074696f6e73496e647573747269616c76617269657479206f66666c6f61
  743a206c6566447572696e67207468656173736573736d656e7468617665206265656e206465616c732077697468537461
  746973746963736f6363757272656e63652f756c3e3c2f6469763e636c656172666978223e746865207075626c69636d61
  6e79207965617273776869636820776572656f7665722074696d652c73796e6f6e796d6f7573636f6e74656e74223e0a70
  726573756d61626c796869732066616d696c79757365724167656e742e756e6578706563746564696e636c7564696e6720
  6368616c6c656e67656461206d696e6f72697479756e646566696e65642262656c6f6e677320746f74616b656e2066726f
  6d696e204f63746f626572706f736974696f6e3a207361696420746f20626572656c6967696f7573204665646572617469
  6f6e20726f777370616e3d226f6e6c792061206665776d65616e7420746861746c656420746f207468652d2d3e0d0a3c64
  6976203c6669656c647365743e41726368626973686f7020636c6173733d226e6f6265696e672075736564617070726f61
  6368657370726976696c656765736e6f7363726970743e0a726573756c747320696e6d6179206265207468654561737465
  72206567676d656368616e69736d73726561736f6e61626c65506f70756c6174696f6e436f6c6c656374696f6e73656c65
  63746564223e6e6f7363726970743e0d2f696e6465782e7068706172726976616c206f662d6a7373646b2729293b6d616e
  6167656420746f696e636f6d706c65746563617375616c74696573636f6d706c6574696f6e43687269737469616e735365
  7074656d6265722061726974686d6574696370726f636564757265736d69676874206861766550726f64756374696f6e69
  7420617070656172735068696c6f736f706879667269656e64736869706c656164696e6720746f676976696e6720746865
  746f776172642074686567756172616e74656564646f63756d656e746564636f6c6f723a23303030766964656f2067616d
  65636f6d6d697373696f6e7265666c656374696e676368616e6765207468656173736f63696174656473616e732d736572
  69666f6e6b657970726573733b2070616464696e673a48652077617320746865756e6465726c79696e677479706963616c
  6c79202c20616e642074686520737263456c656d656e747375636365737369766573696e6365207468652073686f756c64
  206265206e6574776f726b696e676163636f756e74696e67757365206f66207468656c6f776572207468616e73686f7773
  20746861743c2f7370616e3e0a0909636f6d706c61696e7473636f6e74696e756f75737175616e74697469657361737472
  6f6e6f6d6572686520646964206e6f7464756520746f206974736170706c69656420746f616e2061766572616765656666
  6f72747320746f74686520667574757265617474656d707420746f5468657265666f72652c6361706162696c6974795265
  7075626c6963616e77617320666f726d6564456c656374726f6e69636b696c6f6d65746572736368616c6c656e67657370
  75626c697368696e6774686520666f726d6572696e646967656e6f7573646972656374696f6e7373756273696469617279
  636f6e7370697261637964657461696c73206f66616e6420696e207468656166666f726461626c657375627374616e6365
  73726561736f6e20666f72636f6e76656e74696f6e6974656d747970653d226162736f6c7574656c79737570706f736564
  6c7972656d61696e656420616174747261637469766574726176656c6c696e6773657061726174656c79666f6375736573
  206f6e656c656d656e746172796170706c696361626c65666f756e6420746861747374796c6573686565746d616e757363
  726970747374616e647320666f72206e6f2d72657065617428736f6d6574696d6573436f6d6d65726369616c696e20416d
  6572696361756e64657274616b656e71756172746572206f66616e206578616d706c65706572736f6e616c6c79696e6465
  782e7068703f3c2f627574746f6e3e0a70657263656e74616765626573742d6b6e6f776e6372656174696e672061222064
  69723d226c74724c69657574656e616e740a3c6469762069643d227468657920776f756c646162696c697479206f666d61
  6465207570206f666e6f7465642074686174636c656172207468617461726775652074686174746f20616e6f7468657263
  68696c6472656e2773707572706f7365206f66666f726d756c6174656462617365642075706f6e74686520726567696f6e
  7375626a656374206f6670617373656e67657273706f7373657373696f6e2e0a0a496e20746865204265666f7265207468
  656166746572776172647363757272656e746c79206163726f737320746865736369656e7469666963636f6d6d756e6974
  792e6361706974616c69736d696e204765726d616e7972696768742d77696e677468652073797374656d536f6369657479
  206f66706f6c6974696369616e646972656374696f6e3a77656e74206f6e20746f72656d6f76616c206f66204e65772059
  6f726b2061706172746d656e7473696e6469636174696f6e647572696e6720746865756e6c65737320746865686973746f
  726963616c686164206265656e2061646566696e6974697665696e6772656469656e74617474656e64616e636543656e74
  657220666f7270726f6d696e656e6365726561647953746174657374726174656769657362757420696e20746865617320
  70617274206f66636f6e73746974757465636c61696d20746861746c61626f7261746f7279636f6d70617469626c656661
  696c757265206f662c207375636820617320626567616e20776974687573696e672074686520746f2070726f7669646566
  656174757265206f6666726f6d2077686963682f2220636c6173733d2267656f6c6f676963616c7365766572616c206f66
  64656c69626572617465696d706f7274616e7420686f6c64732074686174696e672671756f743b2076616c69676e3d746f
  70746865204765726d616e6f757473696465206f666e65676f746961746564686973206361726565727365706172617469
  6f6e69643d227365617263687761732063616c6c656474686520666f7572746872656372656174696f6e6f746865722074
  68616e70726576656e74696f6e7768696c652074686520656475636174696f6e2c636f6e6e656374696e67616363757261
  74656c7977657265206275696c74776173206b696c6c656461677265656d656e74736d756368206d6f7265204475652074
  6f2074686577696474683a20313030736f6d65206f746865724b696e67646f6d206f6674686520656e7469726566616d6f
  757320666f72746f20636f6e6e6563746f626a65637469766573746865204672656e636870656f706c6520616e64666561
  7475726564223e6973207361696420746f7374727563747572616c7265666572656e64756d6d6f7374206f6674656e6120
  73657061726174652d3e0a3c646976206964204f6666696369616c20776f726c64776964652e617269612d6c6162656c74
  686520706c616e6574616e642069742077617364222076616c75653d226c6f6f6b696e6720617462656e6566696369616c
  61726520696e207468656d6f6e69746f72696e677265706f727465646c79746865206d6f6465726e776f726b696e67206f
  6e616c6c6f77656420746f77686572652074686520696e6e6f7661746976653c2f613e3c2f6469763e736f756e64747261
  636b736561726368466f726d74656e6420746f206265696e7075742069643d226f70656e696e67206f6672657374726963
  74656461646f7074656420627961646472657373696e677468656f6c6f6769616e6d6574686f6473206f6676617269616e
  74206f6643687269737469616e2076657279206c617267656175746f6d6f746976656279206661722074686572616e6765
  2066726f6d70757273756974206f66666f6c6c6f772074686562726f7567687420746f696e20456e676c616e6461677265
  65207468617461636375736564206f66636f6d65732066726f6d70726576656e74696e67646976207374796c653d686973
  206f72206865727472656d656e646f757366726565646f6d206f66636f6e6365726e696e67302031656d2031656d3b4261
  736b657462616c6c2f7374796c652e637373616e206561726c6965726576656e2061667465722f22207469746c653d222e
  636f6d2f696e64657874616b696e672074686570697474736275726768636f6e74656e74223e0d3c7363726970743e2866
  7475726e6564206f7574686176696e67207468653c2f7370616e3e0d0a206f63636173696f6e616c626563617573652069
  747374617274656420746f706879736963616c6c793e3c2f6469763e0a20206372656174656420627943757272656e746c
  792c206267636f6c6f723d22746162696e6465783d22646973617374726f7573416e616c797469637320616c736f206861
  7320613e3c6469762069643d223c2f7374796c653e0a3c63616c6c656420666f7273696e67657220616e642e737263203d
  20222f2f76696f6c6174696f6e737468697320706f696e74636f6e7374616e746c796973206c6f63617465647265636f72
  64696e6773642066726f6d207468656e656465726c616e6473706f7274756775c3aa73d7a2d791d7a8d799d7aad981d8a7
  d8b1d8b3db8c6465736172726f6c6c6f636f6d656e746172696f65647563616369c3b36e7365707469656d627265726567
  6973747261646f64697265636369c3b36e75626963616369c3b36e7075626c696369646164726573707565737461737265
  73756c7461646f73696d706f7274616e746572657365727661646f73617274c3ad63756c6f736469666572656e74657373
  69677569656e746573726570c3ba626c69636173697475616369c3b36e6d696e6973746572696f70726976616369646164
  6469726563746f72696f666f726d616369c3b36e706f626c616369c3b36e707265736964656e7465636f6e74656e69646f
  7361636365736f72696f73746563686e6f72617469706572736f6e616c657363617465676f72c3ad61657370656369616c
  6573646973706f6e69626c6561637475616c696461647265666572656e63696176616c6c61646f6c69646269626c696f74
  65636172656c6163696f6e657363616c656e646172696f706f6cc3ad7469636173616e746572696f726573646f63756d65
  6e746f736e61747572616c657a616d6174657269616c65736469666572656e63696165636f6ec3b36d6963617472616e73
  706f727465726f6472c3ad6775657a70617274696369706172656e6375656e7472616e64697363757369c3b36e65737472
  75637475726166756e64616369c3b36e6672656375656e7465737065726d616e656e7465746f74616c6d656e7465d0bcd0
  bed0b6d0bdd0bed0b1d183d0b4d0b5d182d0bcd0bed0b6d0b5d182d0b2d180d0b5d0bcd18fd182d0b0d0bad0b6d0b5d187
  d182d0bed0b1d18bd0b1d0bed0bbd0b5d0b5d0bed187d0b5d0bdd18cd18dd182d0bed0b3d0bed0bad0bed0b3d0b4d0b0d0
  bfd0bed181d0bbd0b5d0b2d181d0b5d0b3d0bed181d0b0d0b9d182d0b5d187d0b5d180d0b5d0b7d0bcd0bed0b3d183d182
  d181d0b0d0b9d182d0b0d0b6d0b8d0b7d0bdd0b8d0bcd0b5d0b6d0b4d183d0b1d183d0b4d183d182d09fd0bed0b8d181d0
  bad0b7d0b4d0b5d181d18cd0b2d0b8d0b4d0b5d0bed181d0b2d18fd0b7d0b8d0bdd183d0b6d0bdd0bed181d0b2d0bed0b5
  d0b9d0bbd18ed0b4d0b5d0b9d0bfd0bed180d0bdd0bed0bcd0bdd0bed0b3d0bed0b4d0b5d182d0b5d0b9d181d0b2d0bed0
  b8d185d0bfd180d0b0d0b2d0b0d182d0b0d0bad0bed0b9d0bcd0b5d181d182d0bed0b8d0bcd0b5d0b5d182d0b6d0b8d0b7
  d0bdd18cd0bed0b4d0bdd0bed0b9d0bbd183d187d188d0b5d0bfd0b5d180d0b5d0b4d187d0b0d181d182d0b8d187d0b0d1
  81d182d18cd180d0b0d0b1d0bed182d0bdd0bed0b2d18bd185d0bfd180d0b0d0b2d0bed181d0bed0b1d0bed0b9d0bfd0be
  d182d0bed0bcd0bcd0b5d0bdd0b5d0b5d187d0b8d181d0bbd0b5d0bdd0bed0b2d18bd0b5d183d181d0bbd183d0b3d0bed0
  bad0bed0bbd0bed0bdd0b0d0b7d0b0d0b4d182d0b0d0bad0bed0b5d182d0bed0b3d0b4d0b0d0bfd0bed187d182d0b8d09f
  d0bed181d0bbd0b5d182d0b0d0bad0b8d0b5d0bdd0bed0b2d18bd0b9d181d182d0bed0b8d182d182d0b0d0bad0b8d185d1
  81d180d0b0d0b7d183d0a1d0b0d0bdd0bad182d184d0bed180d183d0bcd09ad0bed0b3d0b4d0b0d0bad0bdd0b8d0b3d0b8
  d181d0bbd0bed0b2d0b0d0bdd0b0d188d0b5d0b9d0bdd0b0d0b9d182d0b8d181d0b2d0bed0b8d0bcd181d0b2d18fd0b7d1
  8cd0bbd18ed0b1d0bed0b9d187d0b0d181d182d0bed181d180d0b5d0b4d0b8d09ad180d0bed0bcd0b5d0a4d0bed180d183
  d0bcd180d18bd0bdd0bad0b5d181d182d0b0d0bbd0b8d0bfd0bed0b8d181d0bad182d18bd181d18fd187d0bcd0b5d181d1
  8fd186d186d0b5d0bdd182d180d182d180d183d0b4d0b0d181d0b0d0bcd18bd185d180d18bd0bdd0bad0b0d09dd0bed0b2
  d18bd0b9d187d0b0d181d0bed0b2d0bcd0b5d181d182d0b0d184d0b8d0bbd18cd0bcd0bcd0b0d180d182d0b0d181d182d1
  80d0b0d0bdd0bcd0b5d181d182d0b5d182d0b5d0bad181d182d0bdd0b0d188d0b8d185d0bcd0b8d0bdd183d182d0b8d0bc
  d0b5d0bdd0b8d0b8d0bcd0b5d18ed182d0bdd0bed0bcd0b5d180d0b3d0bed180d0bed0b4d181d0b0d0bcd0bed0bcd18dd1
  82d0bed0bcd183d0bad0bed0bdd186d0b5d181d0b2d0bed0b5d0bcd0bad0b0d0bad0bed0b9d090d180d185d0b8d0b2d985
  d986d8aad8afd989d8a5d8b1d8b3d8a7d984d8b1d8b3d8a7d984d8a9d8a7d984d8b9d8a7d985d983d8aad8a8d987d8a7d8
  a8d8b1d8a7d985d8acd8a7d984d98ad988d985d8a7d984d8b5d988d8b1d8acd8afd98ad8afd8a9d8a7d984d8b9d8b6d988
  d8a5d8b6d8a7d981d8a9d8a7d984d982d8b3d985d8a7d984d8b9d8a7d8a8d8aad8add985d98ad984d985d984d981d8a7d8
  aad985d984d8aad982d989d8aad8b9d8afd98ad984d8a7d984d8b4d8b9d8b1d8a3d8aed8a8d8a7d8b1d8aad8b7d988d98a
  d8b1d8b9d984d98ad983d985d8a5d8b1d981d8a7d982d8b7d984d8a8d8a7d8aad8a7d984d984d8bad8a9d8aad8b1d8aad9
  8ad8a8d8a7d984d986d8a7d8b3d8a7d984d8b4d98ad8aed985d986d8aad8afd98ad8a7d984d8b9d8b1d8a8d8a7d984d982
  d8b5d8b5d8a7d981d984d8a7d985d8b9d984d98ad987d8a7d8aad8add8afd98ad8abd8a7d984d984d987d985d8a7d984d8
  b9d985d984d985d983d8aad8a8d8a9d98ad985d983d986d983d8a7d984d8b7d981d984d981d98ad8afd98ad988d8a5d8af
  d8a7d8b1d8a9d8aad8a7d8b1d98ad8aed8a7d984d8b5d8add8a9d8aad8b3d8acd98ad984d8a7d984d988d982d8aad8b9d9
  86d8afd985d8a7d985d8afd98ad986d8a9d8aad8b5d985d98ad985d8a3d8b1d8b4d98ad981d8a7d984d8b0d98ad986d8b9
  d8b1d8a8d98ad8a9d8a8d988d8a7d8a8d8a9d8a3d984d8b9d8a7d8a8d8a7d984d8b3d981d8b1d985d8b4d8a7d983d984d8
  aad8b9d8a7d984d989d8a7d984d8a3d988d984d8a7d984d8b3d986d8a9d8acd8a7d985d8b9d8a9d8a7d984d8b5d8add981
  d8a7d984d8afd98ad986d983d984d985d8a7d8aad8a7d984d8aed8a7d8b5d8a7d984d985d984d981d8a3d8b9d8b6d8a7d8
  a1d983d8aad8a7d8a8d8a9d8a7d984d8aed98ad8b1d8b1d8b3d8a7d8a6d984d8a7d984d982d984d8a8d8a7d984d8a3d8af
  d8a8d985d982d8a7d8b7d8b9d985d8b1d8a7d8b3d984d985d986d8b7d982d8a9d8a7d984d983d8aad8a8d8a7d984d8b1d8
  acd984d8a7d8b4d8aad8b1d983d8a7d984d982d8afd985d98ad8b9d8b7d98ad9837342795461674e616d65282e6a706722
  20616c743d2231707820736f6c696420232e6769662220616c743d227472616e73706172656e74696e666f726d6174696f
  6e6170706c69636174696f6e22206f6e636c69636b3d2265737461626c69736865646164766572746973696e672e706e67
  2220616c743d22656e7669726f6e6d656e74706572666f726d616e6365617070726f70726961746526616d703b6d646173
  683b696d6d6564696174656c793c2f7374726f6e673e3c2f726174686572207468616e74656d7065726174757265646576
  656c6f706d656e74636f6d7065746974696f6e706c616365686f6c6465727669736962696c6974793a636f707972696768
  74223e3022206865696768743d226576656e2074686f7567687265706c6163656d656e7464657374696e6174696f6e436f
  72706f726174696f6e3c756c20636c6173733d224173736f63696174696f6e696e646976696475616c7370657273706563
  7469766573657454696d656f75742875726c28687474703a2f2f6d617468656d61746963736d617267696e2d746f703a65
  76656e7475616c6c79206465736372697074696f6e29206e6f2d726570656174636f6c6c656374696f6e732e4a50477c74
  68756d627c70617274696369706174652f686561643e3c626f6479666c6f61743a6c6566743b3c6c6920636c6173733d22
  68756e6472656473206f660a0a486f77657665722c20636f6d706f736974696f6e636c6561723a626f74683b636f6f7065
  726174696f6e77697468696e20746865206c6162656c20666f723d22626f726465722d746f703a4e6577205a65616c616e
  647265636f6d6d656e64656470686f746f677261706879696e746572657374696e67266c743b7375702667743b636f6e74
  726f76657273794e65746865726c616e6473616c7465726e61746976656d61786c656e6774683d22737769747a65726c61
  6e64446576656c6f706d656e74657373656e7469616c6c790a0a416c74686f756768203c2f74657874617265613e746875
  6e64657262697264726570726573656e74656426616d703b6e646173683b73706563756c6174696f6e636f6d6d756e6974
  6965736c656769736c6174696f6e656c656374726f6e6963730a093c6469762069643d22696c6c7573747261746564656e
  67696e656572696e677465727269746f72696573617574686f726974696573646973747269627574656436222068656967
  68743d2273616e732d73657269663b63617061626c65206f66206469736170706561726564696e7465726163746976656c
  6f6f6b696e6720666f72697420776f756c6420626541666768616e697374616e77617320637265617465644d6174682e66
  6c6f6f7228737572726f756e64696e6763616e20616c736f2062656f62736572766174696f6e6d61696e74656e616e6365
  656e636f756e74657265643c683220636c6173733d226d6f726520726563656e74697420686173206265656e696e766173
  696f6e206f66292e67657454696d65282966756e64616d656e74616c4465737069746520746865223e3c6469762069643d
  22696e737069726174696f6e6578616d696e6174696f6e7072657061726174696f6e6578706c616e6174696f6e3c696e70
  75742069643d223c2f613e3c2f7370616e3e76657273696f6e73206f66696e737472756d656e74736265666f7265207468
  6520203d2027687474703a2f2f4465736372697074696f6e72656c61746976656c79202e737562737472696e6728656163
  68206f66207468656578706572696d656e7473696e666c75656e7469616c696e746567726174696f6e6d616e792070656f
  706c6564756520746f2074686520636f6d62696e6174696f6e646f206e6f7420686176654d6964646c6520456173743c6e
  6f7363726970743e3c636f7079726967687422207065726861707320746865696e737469747574696f6e696e2044656365
  6d626572617272616e67656d656e746d6f73742066616d6f7573706572736f6e616c6974796372656174696f6e206f666c
  696d69746174696f6e736578636c75736976656c79736f7665726569676e74792d636f6e74656e74223e0a3c746420636c
  6173733d22756e64657267726f756e64706172616c6c656c20746f646f637472696e65206f666f63637570696564206279
  7465726d696e6f6c6f677952656e61697373616e636561206e756d626572206f66737570706f727420666f726578706c6f
  726174696f6e7265636f676e6974696f6e7072656465636573736f723c696d67207372633d222f3c683120636c6173733d
  227075626c69636174696f6e6d617920616c736f2062657370656369616c697a65643c2f6669656c647365743e70726f67
  726573736976656d696c6c696f6e73206f667374617465732074686174656e666f7263656d656e7461726f756e64207468
  65206f6e6520616e6f746865722e706172656e744e6f64656167726963756c74757265416c7465726e6174697665726573
  6561726368657273746f7761726473207468654d6f7374206f66207468656d616e79206f74686572202865737065636961
  6c6c793c74642077696474683d223b77696474683a31303025696e646570656e64656e743c683320636c6173733d22206f
  6e6368616e67653d22292e616464436c61737328696e746572616374696f6e4f6e65206f66207468652064617567687465
  72206f666163636573736f726965736272616e63686573206f660d0a3c6469762069643d22746865206c61726765737464
  65636c61726174696f6e726567756c6174696f6e73496e666f726d6174696f6e7472616e736c6174696f6e646f63756d65
  6e74617279696e206f7264657220746f223e0a3c686561643e0a3c22206865696768743d22316163726f73732074686520
  6f7269656e746174696f6e293b3c2f7363726970743e696d706c656d656e74656463616e206265207365656e7468657265
  20776173206164656d6f6e737472617465636f6e7461696e6572223e636f6e6e656374696f6e7374686520427269746973
  68776173207772697474656e21696d706f7274616e743b70783b206d617267696e2d666f6c6c6f7765642062796162696c
  69747920746f20636f6d706c696361746564647572696e672074686520696d6d6967726174696f6e616c736f2063616c6c
  65643c683420636c6173733d2264697374696e6374696f6e7265706c61636564206279676f7665726e6d656e74736c6f63
  6174696f6e206f66696e204e6f76656d62657277686574686572207468653c2f703e0a3c2f6469763e6163717569736974
  696f6e63616c6c656420746865207065727365637574696f6e64657369676e6174696f6e7b666f6e742d73697a653a6170
  70656172656420696e696e766573746967617465657870657269656e6365646d6f7374206c696b656c79776964656c7920
  7573656464697363757373696f6e7370726573656e6365206f662028646f63756d656e742e657874656e736976656c7949
  7420686173206265656e697420646f6573206e6f74636f6e747261727920746f696e6861626974616e7473696d70726f76
  656d656e747363686f6c617273686970636f6e73756d7074696f6e696e737472756374696f6e666f72206578616d706c65
  6f6e65206f72206d6f726570783b2070616464696e677468652063757272656e746120736572696573206f666172652075
  7375616c6c79726f6c6520696e2074686570726576696f75736c7920646572697661746976657365766964656e6365206f
  66657870657269656e636573636f6c6f72736368656d65737461746564207468617463657274696669636174653c2f613e
  3c2f6469763e0a2073656c65637465643d2268696768207363686f6f6c726573706f6e736520746f636f6d666f72746162
  6c6561646f7074696f6e206f66746872656520796561727374686520636f756e747279696e204665627275617279736f20
  746861742074686570656f706c652077686f2070726f76696465642062793c706172616d206e616d656166666563746564
  206279696e207465726d73206f666170706f696e746d656e7449534f2d383835392d312277617320626f726e20696e6869
  73746f726963616c2072656761726465642061736d6561737572656d656e746973206261736564206f6e20616e64206f74
  686572203a2066756e6374696f6e287369676e69666963616e7463656c6562726174696f6e7472616e736d69747465642f
  6a732f6a71756572792e6973206b6e6f776e2061737468656f7265746963616c20746162696e6465783d22697420636f75
  6c642062653c6e6f7363726970743e0a686176696e67206265656e0d0a3c686561643e0d0a3c202671756f743b54686520
  636f6d70696c6174696f6e686520686164206265656e70726f64756365642062797068696c6f736f70686572636f6e7374
  727563746564696e74656e64656420746f616d6f6e67206f74686572636f6d706172656420746f746f2073617920746861
  74456e67696e656572696e676120646966666572656e74726566657272656420746f646966666572656e63657362656c69
  6566207468617470686f746f6772617068736964656e74696679696e67486973746f7279206f662052657075626c696320
  6f666e65636573736172696c7970726f626162696c697479746563686e6963616c6c796c656176696e6720746865737065
  63746163756c61726672616374696f6e206f66656c65637472696369747968656164206f66207468657265737461757261
  6e7473706172746e657273686970656d706861736973206f6e6d6f737420726563656e7473686172652077697468207361
  79696e67207468617466696c6c6564207769746864657369676e656420746f6974206973206f6674656e223e3c2f696672
  616d653e617320666f6c6c6f77733a6d657267656420776974687468726f75676820746865636f6d6d65726369616c2070
  6f696e746564206f75746f70706f7274756e69747976696577206f6620746865726571756972656d656e74646976697369
  6f6e206f6670726f6772616d6d696e676865207265636569766564736574496e74657276616c223e3c2f7370616e3e3c2f
  696e204e657720596f726b6164646974696f6e616c20636f6d7072657373696f6e0a0a3c6469762069643d22696e636f72
  706f726174653b3c2f7363726970743e3c6174746163684576656e74626563616d65207468652022207461726765743d22
  5f63617272696564206f7574536f6d65206f6620746865736369656e636520616e647468652074696d65206f66436f6e74
  61696e6572223e6d61696e7461696e696e674368726973746f706865724d756368206f662074686577726974696e677320
  6f6622206865696768743d223273697a65206f662074686576657273696f6e206f66206d697874757265206f6620626574
  7765656e207468654578616d706c6573206f66656475636174696f6e616c636f6d7065746974697665206f6e7375626d69
  743d226469726563746f72206f6664697374696e63746976652f445444205848544d4c2072656c6174696e6720746f7465
  6e64656e637920746f70726f76696e6365206f66776869636820776f756c646465737069746520746865736369656e7469
  666963206c656769736c61747572652e696e6e657248544d4c20616c6c65676174696f6e734167726963756c7475726577
  6173207573656420696e617070726f61636820746f696e74656c6c6967656e747965617273206c617465722c73616e732d
  736572696664657465726d696e696e67506572666f726d616e6365617070656172616e6365732c20776869636820697320
  666f756e646174696f6e736162627265766961746564686967686572207468616e732066726f6d2074686520696e646976
  696475616c20636f6d706f736564206f66737570706f73656420746f636c61696d7320746861746174747269627574696f
  6e666f6e742d73697a653a31656c656d656e7473206f66486973746f726963616c206869732062726f7468657261742074
  68652074696d65616e6e6976657273617279676f7665726e656420627972656c6174656420746f20756c74696d6174656c
  7920696e6e6f766174696f6e736974206973207374696c6c63616e206f6e6c79206265646566696e6974696f6e73746f47
  4d54537472696e6741206e756d626572206f66696d6720636c6173733d224576656e7475616c6c792c776173206368616e
  6765646f6363757272656420696e6e65696768626f72696e6764697374696e67756973687768656e20686520776173696e
  74726f647563696e67746572726573747269616c4d616e79206f66207468656172677565732074686174616e20416d6572
  6963616e636f6e7175657374206f66776964657370726561642077657265206b696c6c656473637265656e20616e642049
  6e206f7264657220746f657870656374656420746f64657363656e64616e7473617265206c6f63617465646c656769736c
  617469766567656e65726174696f6e73206261636b67726f756e646d6f73742070656f706c657965617273206166746572
  7468657265206973206e6f74686520686967686573746672657175656e746c79207468657920646f206e6f746172677565
  64207468617473686f7765642074686174707265646f6d696e616e747468656f6c6f676963616c6279207468652074696d
  65636f6e7369646572696e6773686f72742d6c697665643c2f7370616e3e3c2f613e63616e206265207573656476657279
  206c6974746c656f6e65206f66207468652068616420616c7265616479696e746572707265746564636f6d6d756e696361
  74656665617475726573206f66676f7665726e6d656e742c3c2f6e6f7363726970743e656e746572656420746865222068
  65696768743d2233496e646570656e64656e74706f70756c6174696f6e736c617267652d7363616c652e20416c74686f75
  6768207573656420696e207468656465737472756374696f6e706f73736962696c6974797374617274696e6720696e7477
  6f206f72206d6f726565787072657373696f6e737375626f7264696e6174656c6172676572207468616e686973746f7279
  20616e643c2f6f7074696f6e3e0d0a436f6e74696e656e74616c656c696d696e6174696e6777696c6c206e6f7420626570
  72616374696365206f66696e2066726f6e74206f6673697465206f6620746865656e737572652074686174746f20637265
  61746520616d69737369737369707069706f74656e7469616c6c796f75747374616e64696e67626574746572207468616e
  77686174206973206e6f77736974756174656420696e6d657461206e616d653d22547261646974696f6e616c7375676765
  7374696f6e735472616e736c6174696f6e74686520666f726d206f6661746d6f737068657269636964656f6c6f67696361
  6c656e74657270726973657363616c63756c6174696e6765617374206f662074686572656d6e616e7473206f66706c7567
  696e73706167652f696e6465782e7068703f72656d61696e656420696e7472616e73666f726d656448652077617320616c
  736f77617320616c7265616479737461746973746963616c696e206661766f72206f664d696e6973747279206f666d6f76
  656d656e74206f66666f726d756c6174696f6e69732072657175697265643c6c696e6b2072656c3d225468697320697320
  746865203c6120687265663d222f706f70756c6172697a6564696e766f6c76656420696e617265207573656420746f616e
  64207365766572616c6d616465206279207468657365656d7320746f2062656c696b656c79207468617450616c65737469
  6e69616e6e616d6564206166746572697420686164206265656e6d6f737420636f6d6d6f6e746f20726566657220746f62
  75742074686973206973636f6e736563757469766574656d706f726172696c79496e2067656e6572616c2c636f6e76656e
  74696f6e7374616b657320706c6163657375626469766973696f6e7465727269746f7269616c6f7065726174696f6e616c
  7065726d616e656e746c79776173206c617267656c796f7574627265616b206f66696e207468652070617374666f6c6c6f
  77696e67206120786d6c6e733a6f673d223e3c6120636c6173733d22636c6173733d2274657874436f6e76657273696f6e
  206d617920626520757365646d616e75666163747572656166746572206265696e67636c656172666978223e0a71756573
  74696f6e206f6677617320656c6563746564746f206265636f6d65206162656361757365206f6620736f6d652070656f70
  6c65696e7370697265642062797375636365737366756c20612074696d65207768656e6d6f726520636f6d6d6f6e616d6f
  6e67737420746865616e206f6666696369616c77696474683a313030253b746563686e6f6c6f67792c7761732061646f70
  746564746f206b65657020746865736574746c656d656e74736c69766520626972746873696e6465782e68746d6c22436f
  6e6e6563746963757461737369676e656420746f26616d703b74696d65733b6163636f756e7420666f72616c69676e3d72
  6967687474686520636f6d70616e79616c77617973206265656e72657475726e656420746f696e766f6c76656d656e7442
  656361757365207468657468697320706572696f6422206e616d653d22712220636f6e66696e656420746f612072657375
  6c74206f6676616c75653d2222202f3e69732061637475616c6c79456e7669726f6e6d656e740d0a3c2f686561643e0d0a
  436f6e76657273656c792c3e0a3c6469762069643d2230222077696474683d223169732070726f6261626c796861766520
  6265636f6d65636f6e74726f6c6c696e677468652070726f626c656d636974697a656e73206f66706f6c6974696369616e
  7372656163686564207468656173206561726c792061733a6e6f6e653b206f7665723c7461626c652063656c6c76616c69
  64697479206f666469726563746c7920746f6f6e6d6f757365646f776e77686572652069742069737768656e2069742077
  61736d656d62657273206f662072656c6174696f6e20746f6163636f6d6d6f64617465616c6f6e67207769746820496e20
  746865206c61746574686520456e676c69736864656c6963696f7573223e74686973206973206e6f747468652070726573
  656e746966207468657920617265616e642066696e616c6c7961206d6174746572206f660d0a093c2f6469763e0d0a0d0a
  3c2f7363726970743e666173746572207468616e6d616a6f72697479206f666166746572207768696368636f6d70617261
  74697665746f206d61696e7461696e696d70726f766520746865617761726465642074686565722220636c6173733d2266
  72616d65626f72646572726573746f726174696f6e696e207468652073616d65616e616c79736973206f66746865697220
  6669727374447572696e672074686520636f6e74696e656e74616c73657175656e6365206f6666756e6374696f6e28297b
  666f6e742d73697a653a20776f726b206f6e207468653c2f7363726970743e0a3c626567696e7320776974686a61766173
  63726970743a636f6e7374697475656e7477617320666f756e646564657175696c69627269756d617373756d6520746861
  74697320676976656e2062796e6565647320746f206265636f6f7264696e6174657374686520766172696f757361726520
  70617274206f666f6e6c7920696e2074686573656374696f6e73206f666973206120636f6d6d6f6e7468656f7269657320
  6f66646973636f7665726965736173736f63696174696f6e65646765206f6620746865737472656e677468206f66706f73
  6974696f6e20696e70726573656e742d646179756e6976657273616c6c79746f20666f726d2074686562757420696e7374
  656164636f72706f726174696f6e617474616368656420746f697320636f6d6d6f6e6c79726561736f6e7320666f722026
  71756f743b7468652063616e206265206d6164657761732061626c6520746f7768696368206d65616e7362757420646964
  206e6f746f6e4d6f7573654f766572617320706f737369626c656f70657261746564206279636f6d696e672066726f6d74
  6865207072696d6172796164646974696f6e206f66666f72207365766572616c7472616e73666572726564612070657269
  6f64206f666172652061626c6520746f686f77657665722c20697473686f756c6420686176656d756368206c6172676572
  0a093c2f7363726970743e61646f707465642074686570726f7065727479206f6664697265637465642062796566666563
  746976656c797761732062726f756768746368696c6472656e206f6650726f6772616d6d696e676c6f6e67657220746861
  6e6d616e757363726970747377617220616761696e73746279206d65616e73206f66616e64206d6f7374206f6673696d69
  6c617220746f2070726f70726965746172796f726967696e6174696e6770726573746967696f75736772616d6d61746963
  616c657870657269656e63652e746f206d616b652074686549742077617320616c736f697320666f756e6420696e636f6d
  70657469746f7273696e2074686520552e532e7265706c6163652074686562726f756768742074686563616c63756c6174
  696f6e66616c6c206f66207468657468652067656e6572616c70726163746963616c6c79696e20686f6e6f72206f667265
  6c656173656420696e7265736964656e7469616c616e6420736f6d65206f666b696e67206f66207468657265616374696f
  6e20746f317374204561726c206f6663756c7475726520616e647072696e636970616c6c793c2f7469746c653e0a202074
  6865792063616e2062656261636b20746f20746865736f6d65206f66206869736578706f7375726520746f617265207369
  6d696c6172666f726d206f66207468656164644661766f72697465636974697a656e736869707061727420696e20746865
  70656f706c652077697468696e207072616374696365746f20636f6e74696e756526616d703b6d696e75733b617070726f
  7665642062792074686520666972737420616c6c6f77656420746865616e6420666f722074686566756e6374696f6e696e
  67706c6179696e6720746865736f6c7574696f6e20746f6865696768743d22302220696e2068697320626f6f6b6d6f7265
  207468616e2061666f6c6c6f777320746865637265617465642074686570726573656e636520696e266e6273703b3c2f74
  643e6e6174696f6e616c6973747468652069646561206f6661206368617261637465727765726520666f7263656420636c
  6173733d2262746e64617973206f6620746865666561747572656420696e73686f77696e6720746865696e746572657374
  20696e696e20706c616365206f667475726e206f66207468657468652068656164206f664c6f7264206f6620746865706f
  6c69746963616c6c7968617320697473206f776e456475636174696f6e616c617070726f76616c206f66736f6d65206f66
  2074686565616368206f746865722c6265686176696f72206f66616e642062656361757365616e6420616e6f7468657261
  70706561726564206f6e7265636f7264656420696e626c61636b2671756f743b6d617920696e636c75646574686520776f
  726c64277363616e206c65616420746f72656665727320746f2061626f726465723d22302220676f7665726e6d656e7420
  77696e6e696e6720746865726573756c74656420696e207768696c65207468652057617368696e67746f6e2c7468652073
  75626a6563746369747920696e207468653e3c2f6469763e0d0a09097265666c65637420746865746f20636f6d706c6574
  65626563616d65206d6f7265726164696f61637469766572656a6563746564206279776974686f757420616e7968697320
  6661746865722c776869636820636f756c64636f7079206f6620746865746f20696e6469636174656120706f6c69746963
  616c6163636f756e7473206f66636f6e7374697475746573776f726b6564207769746865723c2f613e3c2f6c693e6f6620
  686973206c6966656163636f6d70616e696564636c69656e74576964746870726576656e74207468654c656769736c6174
  697665646966666572656e746c79746f67657468657220696e686173207365766572616c666f7220616e6f746865727465
  7874206f6620746865666f756e6465642074686565207769746820746865206973207573656420666f726368616e676564
  20746865757375616c6c7920746865706c61636520776865726577686572656173207468653e203c6120687265663d2222
  3e3c6120687265663d227468656d73656c7665732c616c74686f756768206865746861742063616e206265747261646974
  696f6e616c726f6c65206f66207468656173206120726573756c7472656d6f76654368696c6464657369676e6564206279
  77657374206f6620746865536f6d652070656f706c6570726f64756374696f6e2c73696465206f66207468656e6577736c
  6574746572737573656420627920746865646f776e20746f2074686561636365707465642062796c69766520696e207468
  65617474656d70747320746f6f757473696465207468656672657175656e63696573486f77657665722c20696e70726f67
  72616d6d6572736174206c6561737420696e617070726f78696d617465616c74686f756768206974776173207061727420
  6f66616e6420766172696f7573476f7665726e6f72206f667468652061727469636c657475726e656420696e746f3e3c61
  20687265663d222f7468652065636f6e6f6d79697320746865206d6f73746d6f737420776964656c79776f756c64206c61
  746572616e6420706572686170737269736520746f207468656f6363757273207768656e756e646572207768696368636f
  6e646974696f6e732e746865207765737465726e7468656f7279207468617469732070726f647563656474686520636974
  79206f66696e2077686963682068657365656e20696e207468657468652063656e7472616c6275696c64696e67206f666d
  616e79206f662068697361726561206f6620746865697320746865206f6e6c796d6f7374206f66207468656d616e79206f
  6620746865746865205765737465726e5468657265206973206e6f657874656e64656420746f537461746973746963616c
  636f6c7370616e3d32207c73686f72742073746f7279706f737369626c6520746f746f706f6c6f676963616c6372697469
  63616c206f667265706f7274656420746f612043687269737469616e6465636973696f6e20746f697320657175616c2074
  6f70726f626c656d73206f66546869732063616e2062656d65726368616e64697365666f72206d6f7374206f666e6f2065
  766964656e636565646974696f6e73206f66656c656d656e747320696e2671756f743b2e20546865636f6d2f696d616765
  732f7768696368206d616b65737468652070726f6365737372656d61696e73207468656c6974657261747572652c697320
  61206d656d62657274686520706f70756c617274686520616e6369656e7470726f626c656d7320696e74696d65206f6620
  7468656465666561746564206279626f6479206f662074686561206665772079656172736d756368206f66207468657468
  6520776f726b206f6643616c69666f726e69612c7365727665642061732061676f7665726e6d656e742e636f6e63657074
  73206f666d6f76656d656e7420696e09093c6469762069643d226974222076616c75653d226c616e6775616765206f6661
  7320746865792061726570726f647563656420696e69732074686174207468656578706c61696e207468656469763e3c2f
  6469763e0a486f7765766572207468656c65616420746f20746865093c6120687265663d222f776173206772616e746564
  70656f706c652068617665636f6e74696e75616c6c79776173207365656e206173616e642072656c617465647468652072
  6f6c65206f6670726f706f7365642062796f6620746865206265737465616368206f746865722e436f6e7374616e74696e
  6570656f706c652066726f6d6469616c65637473206f66746f207265766973696f6e7761732072656e616d65646120736f
  75726365206f6674686520696e697469616c6c61756e6368656420696e70726f7669646520746865746f20746865207765
  73747768657265207468657265616e642073696d696c61726265747765656e2074776f697320616c736f20746865456e67
  6c69736820616e64636f6e646974696f6e732c7468617420697420776173656e7469746c656420746f7468656d73656c76
  65732e7175616e74697479206f6672616e73706172656e63797468652073616d65206173746f206a6f696e20746865636f
  756e74727920616e64746869732069732074686554686973206c656420746f612073746174656d656e74636f6e74726173
  7420746f6c617374496e6465784f667468726f7567682068697369732064657369676e6564746865207465726d20697369
  732070726f766964656470726f74656374207468656e673c2f613e3c2f6c693e5468652063757272656e74746865207369
  7465206f667375627374616e7469616c657870657269656e63652c696e207468652057657374746865792073686f756c64
  736c6f76656ec48d696e61636f6d656e746172696f73756e697665727369646164636f6e646963696f6e65736163746976
  696461646573657870657269656e6369617465636e6f6c6f67c3ad6170726f6475636369c3b36e70756e7475616369c3b3
  6e61706c6963616369c3b36e636f6e7472617365c3b16163617465676f72c3ad6173726567697374726172736570726f66
  6573696f6e616c74726174616d69656e746f726567c3ad7374726174657365637265746172c3ad617072696e636970616c
  657370726f7465636369c3b36e696d706f7274616e746573696d706f7274616e636961706f736962696c69646164696e74
  65726573616e746563726563696d69656e746f6e65636573696461646573737573637269626972736561736f6369616369
  c3b36e646973706f6e69626c65736576616c75616369c3b36e657374756469616e746573726573706f6e7361626c657265
  736f6c756369c3b36e67756164616c616a6172617265676973747261646f736f706f7274756e69646164636f6d65726369
  616c6573666f746f67726166c3ad616175746f72696461646573696e67656e696572c3ad6174656c6576697369c3b36e63
  6f6d706574656e6369616f7065726163696f6e657365737461626c656369646f73696d706c656d656e746561637475616c
  6d656e74656e61766567616369c3b36e636f6e666f726d696461646c696e652d6865696768743a666f6e742d66616d696c
  793a22203a2022687474703a2f2f6170706c69636174696f6e736c696e6b2220687265663d227370656369666963616c6c
  792f2f3c215b43444154415b0a4f7267616e697a6174696f6e646973747269627574696f6e3070783b206865696768743a
  72656c6174696f6e736869706465766963652d77696474683c64697620636c6173733d223c6c6162656c20666f723d2272
  6567697374726174696f6e3c2f6e6f7363726970743e0a2f696e6465782e68746d6c2277696e646f772e6f70656e282021
  696d706f7274616e743b6170706c69636174696f6e2f696e646570656e64656e63652f2f7777772e676f6f676c656f7267
  616e697a6174696f6e6175746f636f6d706c657465726571756972656d656e7473636f6e7365727661746976653c666f72
  6d206e616d653d22696e74656c6c65637475616c6d617267696e2d6c6566743a313874682063656e74757279616e20696d
  706f7274616e74696e737469747574696f6e73616262726576696174696f6e3c696d6720636c6173733d226f7267616e69
  736174696f6e636976696c697a6174696f6e313974682063656e74757279617263686974656374757265696e636f72706f
  7261746564323074682063656e747572792d636f6e7461696e6572223e6d6f7374206e6f7461626c792f3e3c2f613e3c2f
  6469763e6e6f74696669636174696f6e27756e646566696e65642729467572746865726d6f72652c62656c696576652074
  686174696e6e657248544d4c203d207072696f7220746f207468656472616d61746963616c6c79726566657272696e6720
  746f6e65676f74696174696f6e73686561647175617274657273536f75746820416672696361756e737563636573736675
  6c50656e6e73796c76616e69614173206120726573756c742c3c68746d6c206c616e673d22266c743b2f7375702667743b
  6465616c696e6720776974687068696c6164656c70686961686973746f726963616c6c79293b3c2f7363726970743e0a70
  616464696e672d746f703a6578706572696d656e74616c676574417474726962757465696e737472756374696f6e737465
  63686e6f6c6f6769657370617274206f6620746865203d66756e6374696f6e28297b737562736372697074696f6e6c2e64
  7464223e0d0a3c687467656f67726170686963616c436f6e737469747574696f6e272c2066756e6374696f6e2873757070
  6f727465642062796167726963756c747572616c636f6e737472756374696f6e7075626c69636174696f6e73666f6e742d
  73697a653a2031612076617269657479206f663c646976207374796c653d22456e6379636c6f7065646961696672616d65
  207372633d2264656d6f6e737472617465646163636f6d706c6973686564756e6976657273697469657344656d6f677261
  7068696373293b3c2f7363726970743e3c64656469636174656420746f6b6e6f776c65646765206f667361746973666163
  74696f6e706172746963756c61726c793c2f6469763e3c2f6469763e456e676c6973682028555329617070656e64436869
  6c64287472616e736d697373696f6e732e20486f77657665722c20696e74656c6c6967656e63652220746162696e646578
  3d22666c6f61743a72696768743b436f6d6d6f6e7765616c746872616e67696e672066726f6d696e207768696368207468
  656174206c65617374206f6e65726570726f64756374696f6e656e6379636c6f70656469613b666f6e742d73697a653a31
  6a7572697364696374696f6e617420746861742074696d65223e3c6120636c6173733d22496e206164646974696f6e2c64
  65736372697074696f6e2b636f6e766572736174696f6e636f6e74616374207769746869732067656e6572616c6c797222
  20636f6e74656e743d22726570726573656e74696e67266c743b6d6174682667743b70726573656e746174696f6e6f6363
  6173696f6e616c6c793c696d672077696474683d226e617669676174696f6e223e636f6d70656e736174696f6e6368616d
  70696f6e736869706d656469613d22616c6c222076696f6c6174696f6e206f667265666572656e636520746f7265747572
  6e20747275653b5374726963742f2f454e22207472616e73616374696f6e73696e74657276656e74696f6e766572696669
  636174696f6e496e666f726d6174696f6e20646966666963756c746965734368616d70696f6e736869706361706162696c
  69746965733c215b656e6469665d2d2d3e7d0a3c2f7363726970743e0a43687269737469616e697479666f72206578616d
  706c652c50726f66657373696f6e616c7265737472696374696f6e737375676765737420746861747761732072656c6561
  73656428737563682061732074686572656d6f7665436c61737328756e656d706c6f796d656e7474686520416d65726963
  616e737472756374757265206f662f696e6465782e68746d6c207075626c697368656420696e7370616e20636c6173733d
  22223e3c6120687265663d222f696e74726f64756374696f6e62656c6f6e67696e6720746f636c61696d65642074686174
  636f6e73657175656e6365733c6d657461206e616d653d22477569646520746f207468656f7665727768656c6d696e6761
  6761696e73742074686520636f6e63656e7472617465642c0a2e6e6f6e746f756368206f62736572766174696f6e733c2f
  613e0a3c2f6469763e0a662028646f63756d656e742e626f726465723a20317078207b666f6e742d73697a653a31747265
  61746d656e74206f663022206865696768743d22316d6f64696669636174696f6e496e646570656e64656e636564697669
  64656420696e746f67726561746572207468616e616368696576656d656e747365737461626c697368696e674a61766153
  637269707422206e657665727468656c6573737369676e69666963616e636542726f616463617374696e673e266e627370
  3b3c2f74643e636f6e7461696e6572223e0a737563682061732074686520696e666c75656e6365206f6661207061727469
  63756c61727372633d27687474703a2f2f6e617669676174696f6e222068616c66206f6620746865207375627374616e74
  69616c20266e6273703b3c2f6469763e616476616e74616765206f66646973636f76657279206f6666756e64616d656e74
  616c206d6574726f706f6c6974616e746865206f70706f736974652220786d6c3a6c616e673d2264656c69626572617465
  6c79616c69676e3d63656e74657265766f6c7574696f6e206f66707265736572766174696f6e696d70726f76656d656e74
  73626567696e6e696e6720696e4a65737573204368726973745075626c69636174696f6e7364697361677265656d656e74
  746578742d616c69676e3a722c2066756e6374696f6e282973696d696c61726974696573626f64793e3c2f68746d6c3e69
  732063757272656e746c79616c7068616265746963616c697320736f6d6574696d6573747970653d22696d6167652f6d61
  6e79206f662074686520666c6f773a68696464656e3b617661696c61626c6520696e646573637269626520746865657869
  7374656e6365206f66616c6c206f7665722074686574686520496e7465726e6574093c756c20636c6173733d22696e7374
  616c6c6174696f6e6e65696768626f72686f6f6461726d656420666f726365737265647563696e6720746865636f6e7469
  6e75657320746f4e6f6e657468656c6573732c74656d7065726174757265730a09093c6120687265663d22636c6f736520
  746f207468656578616d706c6573206f662069732061626f757420746865287365652062656c6f77292e222069643d2273
  656172636870726f66657373696f6e616c697320617661696c61626c65746865206f6666696369616c09093c2f73637269
  70743e0a0a09093c6469762069643d22616363656c65726174696f6e7468726f756768207468652048616c6c206f662046
  616d656465736372697074696f6e737472616e736c6174696f6e73696e746572666572656e636520747970653d27746578
  742f726563656e74207965617273696e2074686520776f726c647665727920706f70756c61727b6261636b67726f756e64
  3a747261646974696f6e616c20736f6d65206f662074686520636f6e6e656374656420746f6578706c6f69746174696f6e
  656d657267656e6365206f66636f6e737469747574696f6e4120486973746f7279206f667369676e69666963616e74206d
  616e7566616374757265646578706563746174696f6e733e3c6e6f7363726970743e3c63616e20626520666f756e646265
  63617573652074686520686173206e6f74206265656e6e65696768626f7572696e67776974686f75742074686520616464
  656420746f20746865093c6c6920636c6173733d22696e737472756d656e74616c536f7669657420556e696f6e61636b6e
  6f776c656467656477686963682063616e2062656e616d6520666f7220746865617474656e74696f6e20746f617474656d
  70747320746f20646576656c6f706d656e7473496e20666163742c207468653c6c6920636c6173733d2261696d706c6963
  6174696f6e737375697461626c6520666f726d756368206f662074686520636f6c6f6e697a6174696f6e70726573696465
  6e7469616c63616e63656c427562626c6520496e666f726d6174696f6e6d6f7374206f6620746865206973206465736372
  6962656472657374206f6620746865206d6f7265206f72206c657373696e2053657074656d626572496e74656c6c696765
  6e63657372633d22687474703a2f2f70783b206865696768743a20617661696c61626c6520746f6d616e75666163747572
  657268756d616e207269676874736c696e6b20687265663d222f617661696c6162696c69747970726f706f7274696f6e61
  6c6f7574736964652074686520617374726f6e6f6d6963616c68756d616e206265696e67736e616d65206f662074686520
  61726520666f756e6420696e617265206261736564206f6e736d616c6c6572207468616e6120706572736f6e2077686f65
  7870616e73696f6e206f6661726775696e6720746861746e6f77206b6e6f776e206173496e20746865206561726c79696e
  7465726d656469617465646572697665642066726f6d5363616e64696e617669616e3c2f613e3c2f6469763e0d0a636f6e
  736964657220746865616e20657374696d61746564746865204e6174696f6e616c3c6469762069643d2270616772657375
  6c74696e6720696e636f6d6d697373696f6e6564616e616c6f676f757320746f6172652072657175697265642f756c3e0a
  3c2f6469763e0a776173206261736564206f6e616e6420626563616d652061266e6273703b266e6273703b74222076616c
  75653d2222207761732063617074757265646e6f206d6f7265207468616e726573706563746976656c79636f6e74696e75
  6520746f203e0d0a3c686561643e0d0a3c7765726520637265617465646d6f72652067656e6572616c696e666f726d6174
  696f6e207573656420666f7220746865696e646570656e64656e742074686520496d70657269616c636f6d706f6e656e74
  206f66746f20746865206e6f727468696e636c7564652074686520436f6e737472756374696f6e73696465206f66207468
  6520776f756c64206e6f74206265666f7220696e7374616e6365696e76656e74696f6e206f666d6f726520636f6d706c65
  78636f6c6c6563746976656c796261636b67726f756e643a20746578742d616c69676e3a20697473206f726967696e616c
  696e746f206163636f756e74746869732070726f63657373616e20657874656e73697665686f77657665722c2074686574
  68657920617265206e6f7472656a65637465642074686563726974696369736d206f66647572696e672077686963687072
  6f6261626c7920746865746869732061727469636c652866756e6374696f6e28297b49742073686f756c64206265616e20
  61677265656d656e746163636964656e74616c6c79646966666572732066726f6d41726368697465637475726562657474
  6572206b6e6f776e617272616e67656d656e7473696e666c75656e6365206f6e617474656e646564207468656964656e74
  6963616c20746f736f757468206f662074686570617373207468726f756768786d6c22207469746c653d22776569676874
  3a626f6c643b6372656174696e6720746865646973706c61793a6e6f6e657265706c61636564207468653c696d67207372
  633d222f6968747470733a2f2f7777772e576f726c642057617220494974657374696d6f6e69616c73666f756e6420696e
  20746865726571756972656420746f20616e642074686174207468656265747765656e2074686520776173206465736967
  6e6564636f6e7369737473206f6620636f6e736964657261626c797075626c6973686564206279746865206c616e677561
  6765436f6e736572766174696f6e636f6e736973746564206f66726566657220746f207468656261636b20746f20746865
  2063737322206d656469613d2250656f706c652066726f6d20617661696c61626c65206f6e70726f76656420746f206265
  73756767657374696f6e7322776173206b6e6f776e206173766172696574696573206f666c696b656c7920746f20626563
  6f6d707269736564206f66737570706f7274207468652068616e6473206f6620746865636f75706c65642077697468636f
  6e6e65637420616e6420626f726465723a6e6f6e653b706572666f726d616e6365736265666f7265206265696e676c6174
  657220626563616d6563616c63756c6174696f6e736f6674656e2063616c6c65647265736964656e7473206f666d65616e
  696e6720746861743e3c6c6920636c6173733d2265766964656e636520666f726578706c616e6174696f6e73656e766972
  6f6e6d656e7473223e3c2f613e3c2f6469763e776869636820616c6c6f7773496e74726f64756374696f6e646576656c6f
  7065642062796120776964652072616e67656f6e20626568616c66206f6676616c69676e3d22746f70227072696e636970
  6c65206f666174207468652074696d652c3c2f6e6f7363726970743e0d7361696420746f2068617665696e207468652066
  697273747768696c65206f74686572736879706f746865746963616c7068696c6f736f7068657273706f776572206f6620
  746865636f6e7461696e656420696e706572666f726d6564206279696e6162696c69747920746f77657265207772697474
  656e7370616e207374796c653d22696e707574206e616d653d22746865207175657374696f6e696e74656e64656420666f
  7272656a656374696f6e206f66696d706c6965732074686174696e76656e74656420746865746865207374616e64617264
  7761732070726f6261626c796c696e6b206265747765656e70726f666573736f72206f66696e746572616374696f6e7363
  68616e67696e6720746865496e6469616e204f6365616e20636c6173733d226c617374776f726b696e6720776974682768
  7474703a2f2f7777772e7965617273206265666f726554686973207761732074686572656372656174696f6e616c656e74
  6572696e67207468656d6561737572656d656e7473616e2065787472656d656c7976616c7565206f662074686573746172
  74206f66207468650a3c2f7363726970743e0a0a616e206566666f727420746f696e63726561736520746865746f207468
  6520736f75746873706163696e673d2230223e73756666696369656e746c79746865204575726f7065616e636f6e766572
  74656420746f636c65617254696d656f7574646964206e6f742068617665636f6e73657175656e746c79666f7220746865
  206e657874657874656e73696f6e206f6665636f6e6f6d696320616e64616c74686f756768207468656172652070726f64
  75636564616e64207769746820746865696e73756666696369656e74676976656e2062792074686573746174696e672074
  686174657870656e646974757265733c2f7370616e3e3c2f613e0a74686f7567687420746861746f6e2074686520626173
  697363656c6c70616464696e673d696d616765206f662074686572657475726e696e6720746f696e666f726d6174696f6e
  2c736570617261746564206279617373617373696e61746564732220636f6e74656e743d22617574686f72697479206f66
  6e6f7274687765737465726e3c2f6469763e0a3c64697620223e3c2f6469763e0d0a2020636f6e73756c746174696f6e63
  6f6d6d756e697479206f66746865206e6174696f6e616c69742073686f756c642062657061727469636970616e74732061
  6c69676e3d226c65667474686520677265617465737473656c656374696f6e206f6673757065726e61747572616c646570
  656e64656e74206f6e6973206d656e74696f6e6564616c6c6f77696e672074686577617320696e76656e7465646163636f
  6d70616e79696e6768697320706572736f6e616c617661696c61626c652061747374756479206f66207468656f6e207468
  65206f74686572657865637574696f6e206f6648756d616e205269676874737465726d73206f66207468656173736f6369
  6174696f6e73726573656172636820616e64737563636565646564206279646566656174656420746865616e642066726f
  6d20746865627574207468657920617265636f6d6d616e646572206f667374617465206f66207468657965617273206f66
  20616765746865207374756479206f663c756c20636c6173733d2273706c61636520696e20746865776865726520686520
  7761733c6c6920636c6173733d2266746865726520617265206e6f776869636820626563616d656865207075626c697368
  656465787072657373656420696e746f20776869636820746865636f6d6d697373696f6e6572666f6e742d776569676874
  3a7465727269746f7279206f66657874656e73696f6e73223e526f6d616e20456d70697265657175616c20746f20746865
  496e20636f6e74726173742c686f77657665722c20616e646973207479706963616c6c79616e6420686973207769666528
  616c736f2063616c6c65643e3c756c20636c6173733d226566666563746976656c792065766f6c76656420696e746f7365
  656d20746f2068617665776869636820697320746865746865726520776173206e6f616e20657863656c6c656e74616c6c
  206f66207468657365646573637269626564206279496e2070726163746963652c62726f616463617374696e6763686172
  67656420776974687265666c656374656420696e7375626a656374656420746f6d696c697461727920616e64746f207468
  6520706f696e7465636f6e6f6d6963616c6c79736574546172676574696e676172652061637475616c6c79766963746f72
  79206f76657228293b3c2f7363726970743e636f6e74696e756f75736c79726571756972656420666f7265766f6c757469
  6f6e617279616e206566666563746976656e6f727468206f66207468652c207768696368207761732066726f6e74206f66
  207468656f72206f7468657277697365736f6d6520666f726d206f66686164206e6f74206265656e67656e657261746564
  206279696e666f726d6174696f6e2e7065726d697474656420746f696e636c7564657320746865646576656c6f706d656e
  742c656e746572656420696e746f7468652070726576696f7573636f6e73697374656e746c79617265206b6e6f776e2061
  73746865206669656c64206f66746869732074797065206f66676976656e20746f20746865746865207469746c65206f66
  636f6e7461696e7320746865696e7374616e636573206f66696e20746865206e6f72746864756520746f20746865697261
  72652064657369676e6564636f72706f726174696f6e737761732074686174207468656f6e65206f662074686573656d6f
  726520706f70756c617273756363656564656420696e737570706f72742066726f6d696e20646966666572656e74646f6d
  696e6174656420627964657369676e656420666f726f776e657273686970206f66616e6420706f737369626c797374616e
  64617264697a6564726573706f6e73655465787477617320696e74656e646564726563656976656420746865617373756d
  656420746861746172656173206f66207468657072696d6172696c7920696e746865206261736973206f66696e20746865
  2073656e73656163636f756e747320666f7264657374726f7965642062796174206c656173742074776f77617320646563
  6c61726564636f756c64206e6f74206265536563726574617279206f6661707065617220746f2062656d617267696e2d74
  6f703a312f5e5c732b7c5c732b242f6765297b7468726f7720657d3b746865207374617274206f6674776f207365706172
  6174656c616e677561676520616e6477686f20686164206265656e6f7065726174696f6e206f666465617468206f662074
  68657265616c206e756d62657273093c6c696e6b2072656c3d2270726f7669646564207468657468652073746f7279206f
  66636f6d7065746974696f6e73656e676c6973682028554b29656e676c6973682028555329d09cd0bed0bdd0b3d0bed0bb
  d0a1d180d0bfd181d0bad0b8d181d180d0bfd181d0bad0b8d181d180d0bfd181d0bad0bed984d8b9d8b1d8a8d98ad8a9e6
  ada3e9ab94e4b8ade69687e7ae80e4bd93e4b8ade69687e7b981e4bd93e4b8ade69687e69c89e99990e585ace58fb8e4ba
  bae6b091e694bfe5ba9ce998bfe9878ce5b7b4e5b7b4e7a4bee4bc9ae4b8bbe4b989e6938de4bd9ce7b3bbe7bb9fe694bf
  e7ad96e6b395e8a784696e666f726d616369c3b36e68657272616d69656e746173656c65637472c3b36e69636f64657363
  7269706369c3b36e636c61736966696361646f73636f6e6f63696d69656e746f7075626c6963616369c3b36e72656c6163
  696f6e61646173696e666f726dc3a17469636172656c6163696f6e61646f73646570617274616d656e746f74726162616a
  61646f726573646972656374616d656e74656179756e74616d69656e746f6d65726361646f4c69627265636f6e74c3a163
  74656e6f7368616269746163696f6e657363756d706c696d69656e746f72657374617572616e746573646973706f736963
  69c3b36e636f6e73656375656e636961656c65637472c3b36e69636161706c69636163696f6e6573646573636f6e656374
  61646f696e7374616c616369c3b36e7265616c697a616369c3b36e7574696c697a616369c3b36e656e6369636c6f706564
  6961656e6665726d656461646573696e737472756d656e746f73657870657269656e63696173696e73746974756369c3b3
  6e706172746963756c6172657373756263617465676f726961d182d0bed0bbd18cd0bad0bed0a0d0bed181d181d0b8d0b8
  d180d0b0d0b1d0bed182d18bd0b1d0bed0bbd18cd188d0b5d0bfd180d0bed181d182d0bed0bcd0bed0b6d0b5d182d0b5d0
  b4d180d183d0b3d0b8d185d181d0bbd183d187d0b0d0b5d181d0b5d0b9d187d0b0d181d0b2d181d0b5d0b3d0b4d0b0d0a0
  d0bed181d181d0b8d18fd09cd0bed181d0bad0b2d0b5d0b4d180d183d0b3d0b8d0b5d0b3d0bed180d0bed0b4d0b0d0b2d0
  bed0bfd180d0bed181d0b4d0b0d0bdd0bdd18bd185d0b4d0bed0bbd0b6d0bdd18bd0b8d0bcd0b5d0bdd0bdd0bed09cd0be
  d181d0bad0b2d18bd180d183d0b1d0bbd0b5d0b9d09cd0bed181d0bad0b2d0b0d181d182d180d0b0d0bdd18bd0bdd0b8d1
  87d0b5d0b3d0bed180d0b0d0b1d0bed182d0b5d0b4d0bed0bbd0b6d0b5d0bdd183d181d0bbd183d0b3d0b8d182d0b5d0bf
  d0b5d180d18cd09ed0b4d0bdd0b0d0bad0bed0bfd0bed182d0bed0bcd183d180d0b0d0b1d0bed182d183d0b0d0bfd180d0
  b5d0bbd18fd0b2d0bed0bed0b1d189d0b5d0bed0b4d0bdd0bed0b3d0bed181d0b2d0bed0b5d0b3d0bed181d182d0b0d182
  d18cd0b8d0b4d180d183d0b3d0bed0b9d184d0bed180d183d0bcd0b5d185d0bed180d0bed188d0bed0bfd180d0bed182d0
  b8d0b2d181d181d18bd0bbd0bad0b0d0bad0b0d0b6d0b4d18bd0b9d0b2d0bbd0b0d181d182d0b8d0b3d180d183d0bfd0bf
  d18bd0b2d0bcd0b5d181d182d0b5d180d0b0d0b1d0bed182d0b0d181d0bad0b0d0b7d0b0d0bbd0bfd0b5d180d0b2d18bd0
  b9d0b4d0b5d0bbd0b0d182d18cd0b4d0b5d0bdd18cd0b3d0b8d0bfd0b5d180d0b8d0bed0b4d0b1d0b8d0b7d0bdd0b5d181
  d0bed181d0bdd0bed0b2d0b5d0bcd0bed0bcd0b5d0bdd182d0bad183d0bfd0b8d182d18cd0b4d0bed0bbd0b6d0bdd0b0d1
  80d0b0d0bcd0bad0b0d185d0bdd0b0d187d0b0d0bbd0bed0a0d0b0d0b1d0bed182d0b0d0a2d0bed0bbd18cd0bad0bed181
  d0bed0b2d181d0b5d0bcd0b2d182d0bed180d0bed0b9d0bdd0b0d187d0b0d0bbd0b0d181d0bfd0b8d181d0bed0bad181d0
  bbd183d0b6d0b1d18bd181d0b8d181d182d0b5d0bcd0bfd0b5d187d0b0d182d0b8d0bdd0bed0b2d0bed0b3d0bed0bfd0be
  d0bcd0bed189d0b8d181d0b0d0b9d182d0bed0b2d0bfd0bed187d0b5d0bcd183d0bfd0bed0bcd0bed189d18cd0b4d0bed0
  bbd0b6d0bdd0bed181d181d18bd0bbd0bad0b8d0b1d18bd181d182d180d0bed0b4d0b0d0bdd0bdd18bd0b5d0bcd0bdd0be
  d0b3d0b8d0b5d0bfd180d0bed0b5d0bad182d0a1d0b5d0b9d187d0b0d181d0bcd0bed0b4d0b5d0bbd0b8d182d0b0d0bad0
  bed0b3d0bed0bed0bdd0bbd0b0d0b9d0bdd0b3d0bed180d0bed0b4d0b5d0b2d0b5d180d181d0b8d18fd181d182d180d0b0
  d0bdd0b5d184d0b8d0bbd18cd0bcd18bd183d180d0bed0b2d0bdd18fd180d0b0d0b7d0bdd18bd185d0b8d181d0bad0b0d1
  82d18cd0bdd0b5d0b4d0b5d0bbd18ed18fd0bdd0b2d0b0d180d18fd0bcd0b5d0bdd18cd188d0b5d0bcd0bdd0bed0b3d0b8
  d185d0b4d0b0d0bdd0bdd0bed0b9d0b7d0bdd0b0d187d0b8d182d0bdd0b5d0bbd18cd0b7d18fd184d0bed180d183d0bcd0
  b0d0a2d0b5d0bfd0b5d180d18cd0bcd0b5d181d18fd186d0b0d0b7d0b0d189d0b8d182d18bd09bd183d187d188d0b8d0b5
  e0a4a8e0a4b9e0a580e0a482e0a495e0a4b0e0a4a8e0a587e0a485e0a4aae0a4a8e0a587e0a495e0a4bfe0a4afe0a4bee0
  a495e0a4b0e0a587e0a482e0a485e0a4a8e0a58de0a4afe0a495e0a58de0a4afe0a4bee0a497e0a4bee0a487e0a4a1e0a4
  ace0a4bee0a4b0e0a587e0a495e0a4bfe0a4b8e0a580e0a4a6e0a4bfe0a4afe0a4bee0a4aae0a4b9e0a4b2e0a587e0a4b8
  e0a4bfe0a482e0a4b9e0a4ade0a4bee0a4b0e0a4a4e0a485e0a4aae0a4a8e0a580e0a4b5e0a4bee0a4b2e0a587e0a4b8e0
  a587e0a4b5e0a4bee0a495e0a4b0e0a4a4e0a587e0a4aee0a587e0a4b0e0a587e0a4b9e0a58be0a4a8e0a587e0a4b8e0a4
  95e0a4a4e0a587e0a4ace0a4b9e0a581e0a4a4e0a4b8e0a4bee0a487e0a49fe0a4b9e0a58be0a497e0a4bee0a49ce0a4be
  e0a4a8e0a587e0a4aee0a4bfe0a4a8e0a49fe0a495e0a4b0e0a4a4e0a4bee0a495e0a4b0e0a4a8e0a4bee0a489e0a4a8e0
  a495e0a587e0a4afe0a4b9e0a4bee0a481e0a4b8e0a4ace0a4b8e0a587e0a4ade0a4bee0a4b7e0a4bee0a486e0a4aae0a4
  95e0a587e0a4b2e0a4bfe0a4afe0a587e0a4b6e0a581e0a4b0e0a582e0a487e0a4b8e0a495e0a587e0a498e0a482e0a49f
  e0a587e0a4aee0a587e0a4b0e0a580e0a4b8e0a495e0a4a4e0a4bee0a4aee0a587e0a4b0e0a4bee0a4b2e0a587e0a495e0
  a4b0e0a485e0a4a7e0a4bfe0a495e0a485e0a4aae0a4a8e0a4bee0a4b8e0a4aee0a4bee0a49ce0a4aee0a581e0a49de0a5
  87e0a495e0a4bee0a4b0e0a4a3e0a4b9e0a58be0a4a4e0a4bee0a495e0a4a1e0a4bce0a580e0a4afe0a4b9e0a4bee0a482
  e0a4b9e0a58be0a49fe0a4b2e0a4b6e0a4ace0a58de0a4a6e0a4b2e0a4bfe0a4afe0a4bee0a49ce0a580e0a4b5e0a4a8e0
  a49ce0a4bee0a4a4e0a4bee0a495e0a588e0a4b8e0a587e0a486e0a4aae0a495e0a4bee0a4b5e0a4bee0a4b2e0a580e0a4
  a6e0a587e0a4a8e0a587e0a4aae0a582e0a4b0e0a580e0a4aae0a4bee0a4a8e0a580e0a489e0a4b8e0a495e0a587e0a4b9
  e0a58be0a497e0a580e0a4ace0a588e0a4a0e0a495e0a486e0a4aae0a495e0a580e0a4b5e0a4b0e0a58de0a4b7e0a497e0
  a4bee0a482e0a4b5e0a486e0a4aae0a495e0a58be0a49ce0a4bfe0a4b2e0a4bee0a49ce0a4bee0a4a8e0a4bee0a4b8e0a4
  b9e0a4aee0a4a4e0a4b9e0a4aee0a587e0a482e0a489e0a4a8e0a495e0a580e0a4afe0a4bee0a4b9e0a582e0a4a6e0a4b0
  e0a58de0a49ce0a4b8e0a582e0a49ae0a580e0a4aae0a4b8e0a482e0a4a6e0a4b8e0a4b5e0a4bee0a4b2e0a4b9e0a58be0
  a4a8e0a4bee0a4b9e0a58be0a4a4e0a580e0a49ce0a588e0a4b8e0a587e0a4b5e0a4bee0a4aae0a4b8e0a49ce0a4a8e0a4
  a4e0a4bee0a4a8e0a587e0a4a4e0a4bee0a49ce0a4bee0a4b0e0a580e0a498e0a4bee0a4afe0a4b2e0a49ce0a4bfe0a4b2
  e0a587e0a4a8e0a580e0a49ae0a587e0a49ce0a4bee0a482e0a49ae0a4aae0a4a4e0a58de0a4b0e0a497e0a582e0a497e0
  a4b2e0a49ce0a4bee0a4a4e0a587e0a4ace0a4bee0a4b9e0a4b0e0a486e0a4aae0a4a8e0a587e0a4b5e0a4bee0a4b9e0a4
  a8e0a487e0a4b8e0a495e0a4bee0a4b8e0a581e0a4ace0a4b9e0a4b0e0a4b9e0a4a8e0a587e0a487e0a4b8e0a4b8e0a587
  e0a4b8e0a4b9e0a4bfe0a4a4e0a4ace0a4a1e0a4bce0a587e0a498e0a49fe0a4a8e0a4bee0a4a4e0a4b2e0a4bee0a4b6e0
  a4aae0a4bee0a482e0a49ae0a4b6e0a58de0a4b0e0a580e0a4ace0a4a1e0a4bce0a580e0a4b9e0a58be0a4a4e0a587e0a4
  b8e0a4bee0a488e0a49fe0a4b6e0a4bee0a4afe0a4a6e0a4b8e0a495e0a4a4e0a580e0a49ce0a4bee0a4a4e0a580e0a4b5
  e0a4bee0a4b2e0a4bee0a4b9e0a49ce0a4bee0a4b0e0a4aae0a49fe0a4a8e0a4bee0a4b0e0a496e0a4a8e0a587e0a4b8e0
  a4a1e0a4bce0a495e0a4aee0a4bfe0a4b2e0a4bee0a489e0a4b8e0a495e0a580e0a495e0a587e0a4b5e0a4b2e0a4b2e0a4
  97e0a4a4e0a4bee0a496e0a4bee0a4a8e0a4bee0a485e0a4b0e0a58de0a4a5e0a49ce0a4b9e0a4bee0a482e0a4a6e0a587
  e0a496e0a4bee0a4aae0a4b9e0a4b2e0a580e0a4a8e0a4bfe0a4afe0a4aee0a4ace0a4bfe0a4a8e0a4bee0a4ace0a588e0
  a482e0a495e0a495e0a4b9e0a580e0a482e0a495e0a4b9e0a4a8e0a4bee0a4a6e0a587e0a4a4e0a4bee0a4b9e0a4aee0a4
  b2e0a587e0a495e0a4bee0a4abe0a580e0a49ce0a4ace0a495e0a4bfe0a4a4e0a581e0a4b0e0a4a4e0a4aee0a4bee0a482
  e0a497e0a4b5e0a4b9e0a580e0a482e0a4b0e0a58be0a49ce0a4bce0a4aee0a4bfe0a4b2e0a580e0a486e0a4b0e0a58be0
  a4aae0a4b8e0a587e0a4a8e0a4bee0a4afe0a4bee0a4a6e0a4b5e0a4b2e0a587e0a4a8e0a587e0a496e0a4bee0a4a4e0a4
  bee0a495e0a4b0e0a580e0a4ace0a489e0a4a8e0a495e0a4bee0a49ce0a4b5e0a4bee0a4ace0a4aae0a582e0a4b0e0a4be
  e0a4ace0a4a1e0a4bce0a4bee0a4b8e0a58ce0a4a6e0a4bee0a4b6e0a587e0a4afe0a4b0e0a495e0a4bfe0a4afe0a587e0
  a495e0a4b9e0a4bee0a482e0a485e0a495e0a4b8e0a4b0e0a4ace0a4a8e0a4bee0a48fe0a4b5e0a4b9e0a4bee0a482e0a4
  b8e0a58de0a4a5e0a4b2e0a4aee0a4bfe0a4b2e0a587e0a4b2e0a587e0a496e0a495e0a4b5e0a4bfe0a4b7e0a4afe0a495
  e0a58de0a4b0e0a482e0a4b8e0a4aee0a582e0a4b9e0a4a5e0a4bee0a4a8e0a4bed8aad8b3d8aad8b7d98ad8b9d985d8b4
  d8a7d8b1d983d8a9d8a8d988d8a7d8b3d8b7d8a9d8a7d984d8b5d981d8add8a9d985d988d8a7d8b6d98ad8b9d8a7d984d8
  aed8a7d8b5d8a9d8a7d984d985d8b2d98ad8afd8a7d984d8b9d8a7d985d8a9d8a7d984d983d8a7d8aad8a8d8a7d984d8b1
  d8afd988d8afd8a8d8b1d986d8a7d985d8acd8a7d984d8afd988d984d8a9d8a7d984d8b9d8a7d984d985d8a7d984d985d9
  88d982d8b9d8a7d984d8b9d8b1d8a8d98ad8a7d984d8b3d8b1d98ad8b9d8a7d984d8acd988d8a7d984d8a7d984d8b0d987
  d8a7d8a8d8a7d984d8add98ad8a7d8a9d8a7d984d8add982d988d982d8a7d984d983d8b1d98ad985d8a7d984d8b9d8b1d8
  a7d982d985d8add981d988d8b8d8a9d8a7d984d8abd8a7d986d98ad985d8b4d8a7d987d8afd8a9d8a7d984d985d8b1d8a3
  d8a9d8a7d984d982d8b1d8a2d986d8a7d984d8b4d8a8d8a7d8a8d8a7d984d8add988d8a7d8b1d8a7d984d8acd8afd98ad8
  afd8a7d984d8a3d8b3d8b1d8a9d8a7d984d8b9d984d988d985d985d8acd985d988d8b9d8a9d8a7d984d8b1d8add985d986
  d8a7d984d986d982d8a7d8b7d981d984d8b3d8b7d98ad986d8a7d984d983d988d98ad8aad8a7d984d8afd986d98ad8a7d8
  a8d8b1d983d8a7d8aad987d8a7d984d8b1d98ad8a7d8b6d8aad8add98ad8a7d8aad98ad8a8d8aad988d982d98ad8aad8a7
  d984d8a3d988d984d989d8a7d984d8a8d8b1d98ad8afd8a7d984d983d984d8a7d985d8a7d984d8b1d8a7d8a8d8b7d8a7d9
  84d8b4d8aed8b5d98ad8b3d98ad8a7d8b1d8a7d8aad8a7d984d8abd8a7d984d8abd8a7d984d8b5d984d8a7d8a9d8a7d984
  d8add8afd98ad8abd8a7d984d8b2d988d8a7d8b1d8a7d984d8aed984d98ad8acd8a7d984d8acd985d98ad8b9d8a7d984d8
  b9d8a7d985d987d8a7d984d8acd985d8a7d984d8a7d984d8b3d8a7d8b9d8a9d985d8b4d8a7d987d8afd987d8a7d984d8b1
  d8a6d98ad8b3d8a7d984d8afd8aed988d984d8a7d984d981d986d98ad8a9d8a7d984d983d8aad8a7d8a8d8a7d984d8afd9
  88d8b1d98ad8a7d984d8afd8b1d988d8b3d8a7d8b3d8aad8bad8b1d982d8aad8b5d8a7d985d98ad985d8a7d984d8a8d986
  d8a7d8aad8a7d984d8b9d8b8d98ad985656e7465727461696e6d656e74756e6465727374616e64696e67203d2066756e63
  74696f6e28292e6a7067222077696474683d22636f6e66696775726174696f6e2e706e67222077696474683d223c626f64
  7920636c6173733d224d6174682e72616e646f6d2829636f6e74656d706f7261727920556e697465642053746174657363
  697263756d7374616e6365732e617070656e644368696c64286f7267616e697a6174696f6e733c7370616e20636c617373
  3d22223e3c696d67207372633d222f64697374696e6775697368656474686f7573616e6473206f6620636f6d6d756e6963
  6174696f6e636c656172223e3c2f6469763e696e7665737469676174696f6e66617669636f6e2e69636f22206d61726769
  6e2d72696768743a6261736564206f6e20746865204d6173736163687573657474737461626c6520626f726465723d696e
  7465726e6174696f6e616c616c736f206b6e6f776e20617370726f6e756e63696174696f6e6261636b67726f756e643a23
  6670616464696e672d6c6566743a466f72206578616d706c652c206d697363656c6c616e656f7573266c743b2f6d617468
  2667743b70737963686f6c6f676963616c696e20706172746963756c617265617263682220747970653d22666f726d206d
  6574686f643d226173206f70706f73656420746f53757072656d6520436f7572746f63636173696f6e616c6c7920416464
  6974696f6e616c6c792c4e6f72746820416d657269636170783b6261636b67726f756e646f70706f7274756e6974696573
  456e7465727461696e6d656e742e746f4c6f77657243617365286d616e75666163747572696e6770726f66657373696f6e
  616c20636f6d62696e65642077697468466f7220696e7374616e63652c636f6e73697374696e67206f6622206d61786c65
  6e6774683d2272657475726e2066616c73653b636f6e7363696f75736e6573734d65646974657272616e65616e65787472
  616f7264696e617279617373617373696e6174696f6e73756273657175656e746c7920627574746f6e20747970653d2274
  6865206e756d626572206f66746865206f726967696e616c20636f6d70726568656e7369766572656665727320746f2074
  68653c2f756c3e0a3c2f6469763e0a7068696c6f736f70686963616c6c6f636174696f6e2e68726566776173207075626c
  697368656453616e204672616e636973636f2866756e6374696f6e28297b0a3c6469762069643d226d61696e736f706869
  73746963617465646d617468656d61746963616c202f686561643e0d0a3c626f647973756767657374732074686174646f
  63756d656e746174696f6e636f6e63656e74726174696f6e72656c6174696f6e73686970736d6179206861766520626565
  6e28666f72206578616d706c652c546869732061727469636c6520696e20736f6d652063617365737061727473206f6620
  74686520646566696e6974696f6e206f664772656174204272697461696e2063656c6c70616464696e673d657175697661
  6c656e7420746f706c616365686f6c6465723d223b20666f6e742d73697a653a206a757374696669636174696f6e62656c
  6965766564207468617473756666657265642066726f6d617474656d7074656420746f206c6561646572206f6620746865
  637269707422207372633d222f2866756e6374696f6e2829207b61726520617661696c61626c650a093c6c696e6b207265
  6c3d22207372633d27687474703a2f2f696e746572657374656420696e636f6e76656e74696f6e616c202220616c743d22
  22202f3e3c2f6172652067656e6572616c6c7968617320616c736f206265656e6d6f737420706f70756c617220636f7272
  6573706f6e64696e676372656469746564207769746874796c653d22626f726465723a3c2f613e3c2f7370616e3e3c2f2e
  676966222077696474683d223c696672616d65207372633d227461626c6520636c6173733d22696e6c696e652d626c6f63
  6b3b6163636f7264696e6720746f20746f6765746865722077697468617070726f78696d6174656c797061726c69616d65
  6e746172796d6f726520616e64206d6f7265646973706c61793a6e6f6e653b747261646974696f6e616c6c79707265646f
  6d696e616e746c79266e6273703b7c266e6273703b266e6273703b3c2f7370616e3e2063656c6c73706163696e673d3c69
  6e707574206e616d653d226f722220636f6e74656e743d22636f6e74726f7665727369616c70726f70657274793d226f67
  3a2f782d73686f636b776176652d64656d6f6e7374726174696f6e737572726f756e6465642062794e657665727468656c
  6573732c77617320746865206669727374636f6e736964657261626c6520416c74686f7567682074686520636f6c6c6162
  6f726174696f6e73686f756c64206e6f7420626570726f706f7274696f6e206f663c7370616e207374796c653d226b6e6f
  776e206173207468652073686f72746c79206166746572666f7220696e7374616e63652c64657363726962656420617320
  2f686561643e0a3c626f6479207374617274696e672077697468696e6372656173696e676c792074686520666163742074
  68617464697363757373696f6e206f666d6964646c65206f6620746865616e20696e646976696475616c64696666696375
  6c7420746f20706f696e74206f662076696577686f6d6f73657875616c697479616363657074616e6365206f663c2f7370
  616e3e3c2f6469763e6d616e756661637475726572736f726967696e206f6620746865636f6d6d6f6e6c79207573656469
  6d706f7274616e6365206f6664656e6f6d696e6174696f6e736261636b67726f756e643a20236c656e677468206f662074
  686564657465726d696e6174696f6e61207369676e69666963616e742220626f726465723d2230223e7265766f6c757469
  6f6e6172797072696e6369706c6573206f66697320636f6e7369646572656477617320646576656c6f706564496e646f2d
  4575726f7065616e76756c6e657261626c6520746f70726f706f6e656e7473206f6661726520736f6d6574696d6573636c
  6f73657220746f207468654e657720596f726b2043697479206e616d653d22736561726368617474726962757465642074
  6f636f75727365206f66207468656d617468656d6174696369616e62792074686520656e64206f6661742074686520656e
  64206f662220626f726465723d22302220746563686e6f6c6f676963616c2e72656d6f7665436c617373286272616e6368
  206f662074686565766964656e63652074686174215b656e6469665d2d2d3e0d0a496e73746974757465206f6620696e74
  6f20612073696e676c65726573706563746976656c792e616e64207468657265666f726570726f70657274696573206f66
  6973206c6f636174656420696e736f6d65206f66207768696368546865726520697320616c736f636f6e74696e75656420
  746f20617070656172616e6365206f662026616d703b6e646173683b2064657363726962657320746865636f6e73696465
  726174696f6e617574686f72206f6620746865696e646570656e64656e746c7965717569707065642077697468646f6573
  206e6f7420686176653c2f613e3c6120687265663d22636f6e667573656420776974683c6c696e6b20687265663d222f61
  742074686520616765206f6661707065617220696e20746865546865736520696e636c7564657265676172646c65737320
  6f66636f756c642062652075736564207374796c653d2671756f743b7365766572616c2074696d6573726570726573656e
  7420746865626f64793e0a3c2f68746d6c3e74686f7567687420746f206265706f70756c6174696f6e206f66706f737369
  62696c697469657370657263656e74616765206f6661636365737320746f20746865616e20617474656d707420746f7072
  6f64756374696f6e206f666a71756572792f6a717565727974776f20646966666572656e7462656c6f6e6720746f207468
  6565737461626c6973686d656e747265706c6163696e67207468656465736372697074696f6e222064657465726d696e65
  20746865617661696c61626c6520666f724163636f7264696e6720746f20776964652072616e6765206f66093c64697620
  636c6173733d226d6f726520636f6d6d6f6e6c796f7267616e69736174696f6e7366756e6374696f6e616c697479776173
  20636f6d706c657465642026616d703b6d646173683b2070617274696369706174696f6e74686520636861726163746572
  616e206164646974696f6e616c6170706561727320746f20626566616374207468617420746865616e206578616d706c65
  206f667369676e69666963616e746c796f6e6d6f7573656f7665723d22626563617573652074686579206173796e63203d
  20747275653b70726f626c656d7320776974687365656d7320746f206861766574686520726573756c74206f6620737263
  3d22687474703a2f2f66616d696c6961722077697468706f7373657373696f6e206f6666756e6374696f6e202829207b74
  6f6f6b20706c61636520696e616e6420736f6d6574696d65737375627374616e7469616c6c793c7370616e3e3c2f737061
  6e3e6973206f6674656e2075736564696e20616e20617474656d70746772656174206465616c206f66456e7669726f6e6d
  656e74616c7375636365737366756c6c79207669727475616c6c7920616c6c323074682063656e747572792c70726f6665
  7373696f6e616c736e656365737361727920746f2064657465726d696e6564206279636f6d7061746962696c6974796265
  636175736520697420697344696374696f6e617279206f666d6f64696669636174696f6e7354686520666f6c6c6f77696e
  676d617920726566657220746f3a436f6e73657175656e746c792c496e7465726e6174696f6e616c616c74686f75676820
  736f6d657468617420776f756c64206265776f726c642773206669727374636c6173736966696564206173626f74746f6d
  206f662074686528706172746963756c61726c79616c69676e3d226c65667422206d6f737420636f6d6d6f6e6c79626173
  697320666f7220746865666f756e646174696f6e206f66636f6e747269627574696f6e73706f70756c6172697479206f66
  63656e746572206f6620746865746f20726564756365207468656a7572697364696374696f6e73617070726f78696d6174
  696f6e206f6e6d6f7573656f75743d224e65772054657374616d656e74636f6c6c656374696f6e206f663c2f7370616e3e
  3c2f613e3c2f696e2074686520556e6974656466696c6d206469726563746f722d7374726963742e647464223e68617320
  6265656e207573656472657475726e20746f20746865616c74686f75676820746869736368616e676520696e2074686573
  65766572616c206f7468657262757420746865726520617265756e707265636564656e74656469732073696d696c617220
  746f657370656369616c6c7920696e7765696768743a20626f6c643b69732063616c6c656420746865636f6d7075746174
  696f6e616c696e64696361746520746861747265737472696374656420746f093c6d657461206e616d653d226172652074
  79706963616c6c79636f6e666c6963742077697468486f77657665722c2074686520416e206578616d706c65206f66636f
  6d706172656420776974687175616e746974696573206f66726174686572207468616e2061636f6e7374656c6c6174696f
  6e6e656365737361727920666f727265706f72746564207468617473706563696669636174696f6e706f6c69746963616c
  20616e64266e6273703b266e6273703b3c7265666572656e63657320746f7468652073616d652079656172476f7665726e
  6d656e74206f6667656e65726174696f6e206f6668617665206e6f74206265656e7365766572616c207965617273636f6d
  6d69746d656e7420746f09093c756c20636c6173733d2276697375616c697a6174696f6e313974682063656e747572792c
  70726163746974696f6e6572737468617420686520776f756c64616e6420636f6e74696e7565646f636375706174696f6e
  206f66697320646566696e656420617363656e747265206f662074686574686520616d6f756e74206f663e3c6469762073
  74796c653d226571756976616c656e74206f66646966666572656e746961746562726f756768742061626f75746d617267
  696e2d6c6566743a206175746f6d61746963616c6c7974686f75676874206f66206173536f6d65206f662074686573650a
  3c64697620636c6173733d22696e70757420636c6173733d227265706c6163656420776974686973206f6e65206f662074
  6865656475636174696f6e20616e64696e666c75656e63656420627972657075746174696f6e2061730a3c6d657461206e
  616d653d226163636f6d6d6f646174696f6e3c2f6469763e0a3c2f6469763e6c617267652070617274206f66496e737469
  7475746520666f7274686520736f2d63616c6c656420616761696e73742074686520496e207468697320636173652c7761
  73206170706f696e746564636c61696d656420746f206265486f77657665722c20746869734465706172746d656e74206f
  667468652072656d61696e696e67656666656374206f6e20746865706172746963756c61726c79206465616c2077697468
  207468650a3c646976207374796c653d22616c6d6f737420616c776179736172652063757272656e746c79657870726573
  73696f6e206f667068696c6f736f706879206f66666f72206d6f7265207468616e636976696c697a6174696f6e736f6e20
  7468652069736c616e6473656c6563746564496e64657863616e20726573756c7420696e222076616c75653d2222202f3e
  74686520737472756374757265202f3e3c2f613e3c2f6469763e4d616e79206f6620746865736563617573656420627920
  7468656f662074686520556e697465647370616e20636c6173733d226d63616e2062652074726163656469732072656c61
  74656420746f626563616d65206f6e65206f666973206672657175656e746c796c6976696e6720696e207468657468656f
  7265746963616c6c79466f6c6c6f77696e67207468655265766f6c7574696f6e617279676f7665726e6d656e7420696e69
  732064657465726d696e656474686520706f6c69746963616c696e74726f647563656420696e73756666696369656e7420
  746f6465736372697074696f6e223e73686f72742073746f7269657373657061726174696f6e206f66617320746f207768
  65746865726b6e6f776e20666f722069747377617320696e697469616c6c79646973706c61793a626c6f636b697320616e
  206578616d706c65746865207072696e636970616c636f6e7369737473206f6620617265636f676e697a65642061732f62
  6f64793e3c2f68746d6c3e61207375627374616e7469616c7265636f6e737472756374656468656164206f662073746174
  65726573697374616e636520746f756e64657267726164756174655468657265206172652074776f677261766974617469
  6f6e616c61726520646573637269626564696e74656e74696f6e616c6c7973657276656420617320746865636c6173733d
  226865616465726f70706f736974696f6e20746f66756e64616d656e74616c6c79646f6d696e6174656420746865616e64
  20746865206f74686572616c6c69616e6365207769746877617320666f7263656420746f726573706563746976656c792c
  616e6420706f6c69746963616c696e20737570706f7274206f6670656f706c6520696e20746865323074682063656e7475
  72792e616e64207075626c69736865646c6f6164436861727462656174746f20756e6465727374616e646d656d62657220
  737461746573656e7669726f6e6d656e74616c66697273742068616c66206f66636f756e747269657320616e6461726368
  69746563747572616c626520636f6e73696465726564636861726163746572697a6564636c656172496e74657276616c61
  7574686f726974617469766546656465726174696f6e206f6677617320737563636565646564616e642074686572652061
  72656120636f6e73657175656e636574686520507265736964656e74616c736f20696e636c756465646672656520736f66
  747761726573756363657373696f6e206f66646576656c6f706564207468657761732064657374726f7965646177617920
  66726f6d207468653b0a3c2f7363726970743e0a3c616c74686f7567682074686579666f6c6c6f77656420627920616d6f
  726520706f77657266756c726573756c74656420696e2061556e6976657273697479206f66486f77657665722c206d616e
  7974686520707265736964656e74486f77657665722c20736f6d6569732074686f7567687420746f756e74696c20746865
  20656e6477617320616e6e6f756e63656461726520696d706f7274616e74616c736f20696e636c756465733e3c696e7075
  7420747970653d7468652063656e746572206f6620444f204e4f5420414c5445527573656420746f207265666572746865
  6d65732f3f736f72743d7468617420686164206265656e74686520626173697320666f7268617320646576656c6f706564
  696e207468652073756d6d6572636f6d70617261746976656c796465736372696265642074686573756368206173207468
  6f736574686520726573756c74696e67697320696d706f737369626c65766172696f7573206f74686572536f7574682041
  66726963616e68617665207468652073616d656566666563746976656e657373696e20776869636820636173653b207465
  78742d616c69676e3a73747275637475726520616e643b206261636b67726f756e643a726567617264696e672074686573
  7570706f7274656420746865697320616c736f206b6e6f776e7374796c653d226d617267696e696e636c7564696e672074
  6865626168617361204d656c6179756e6f72736b20626f6b6dc3a56c6e6f72736b206e796e6f72736b736c6f76656ec5a1
  c48d696e61696e7465726e6163696f6e616c63616c69666963616369c3b36e636f6d756e6963616369c3b36e636f6e7374
  7275636369c3b36e223e3c64697620636c6173733d22646973616d626967756174696f6e446f6d61696e4e616d65272c20
  2761646d696e697374726174696f6e73696d756c74616e656f75736c797472616e73706f72746174696f6e496e7465726e
  6174696f6e616c206d617267696e2d626f74746f6d3a726573706f6e736962696c6974793c215b656e6469665d2d2d3e0a
  3c2f3e3c6d657461206e616d653d22696d706c656d656e746174696f6e696e667261737472756374757265726570726573
  656e746174696f6e626f726465722d626f74746f6d3a3c2f686561643e0a3c626f64793e3d687474702533412532462532
  463c666f726d206d6574686f643d226d6574686f643d22706f737422202f66617669636f6e2e69636f22207d293b0a3c2f
  7363726970743e0a2e7365744174747269627574652841646d696e697374726174696f6e3d206e65772041727261792829
  3b3c215b656e6469665d2d2d3e0d0a646973706c61793a626c6f636b3b556e666f7274756e6174656c792c223e266e6273
  703b3c2f6469763e2f66617669636f6e2e69636f223e3d277374796c65736865657427206964656e74696669636174696f
  6e2c20666f72206578616d706c652c3c6c693e3c6120687265663d222f616e20616c7465726e6174697665617320612072
  6573756c74206f667074223e3c2f7363726970743e0a747970653d227375626d697422200a2866756e6374696f6e282920
  7b7265636f6d6d656e646174696f6e666f726d20616374696f6e3d222f7472616e73666f726d6174696f6e7265636f6e73
  7472756374696f6e2e7374796c652e646973706c6179204163636f7264696e6720746f2068696464656e22206e616d653d
  22616c6f6e67207769746820746865646f63756d656e742e626f64792e617070726f78696d6174656c7920436f6d6d756e
  69636174696f6e73706f73742220616374696f6e3d226d65616e696e67202671756f743b2d2d3c215b656e6469665d2d2d
  3e5072696d65204d696e697374657263686172616374657269737469633c2f613e203c6120636c6173733d746865206869
  73746f7279206f66206f6e6d6f7573656f7665723d2274686520676f7665726e6d656e74687265663d2268747470733a2f
  2f776173206f726967696e616c6c7977617320696e74726f6475636564636c617373696669636174696f6e726570726573
  656e74617469766561726520636f6e736964657265643c215b656e6469665d2d2d3e0a0a646570656e6473206f6e207468
  65556e6976657273697479206f6620696e20636f6e747261737420746f20706c616365686f6c6465723d22696e20746865
  2063617365206f66696e7465726e6174696f6e616c20636f6e737469747574696f6e616c7374796c653d22626f72646572
  2d3a2066756e6374696f6e2829207b42656361757365206f66207468652d7374726963742e647464223e0a3c7461626c65
  20636c6173733d226163636f6d70616e6965642062796163636f756e74206f66207468653c736372697074207372633d22
  2f6e6174757265206f6620746865207468652070656f706c6520696e20696e206164646974696f6e20746f73293b206a73
  2e6964203d206964222077696474683d223130302522726567617264696e672074686520526f6d616e20436174686f6c69
  63616e20696e646570656e64656e74666f6c6c6f77696e6720746865202e676966222077696474683d223174686520666f
  6c6c6f77696e67206469736372696d696e6174696f6e6172636861656f6c6f676963616c7072696d65206d696e69737465
  722e6a73223e3c2f7363726970743e636f6d62696e6174696f6e206f66206d617267696e77696474683d22637265617465
  456c656d656e7428772e6174746163684576656e74283c2f613e3c2f74643e3c2f74723e7372633d2268747470733a2f2f
  61496e20706172746963756c61722c20616c69676e3d226c6566742220437a6563682052657075626c6963556e69746564
  204b696e67646f6d636f72726573706f6e64656e6365636f6e636c7564656420746861742e68746d6c22207469746c653d
  222866756e6374696f6e202829207b636f6d65732066726f6d207468656170706c69636174696f6e206f663c7370616e20
  636c6173733d227362656c696576656420746f206265656d656e742827736372697074273c2f613e0a3c2f6c693e0a3c6c
  697665727920646966666572656e743e3c7370616e20636c6173733d226f7074696f6e2076616c75653d2228616c736f20
  6b6e6f776e206173093c6c693e3c6120687265663d223e3c696e707574206e616d653d227365706172617465642066726f
  6d726566657272656420746f2061732076616c69676e3d22746f70223e666f756e646572206f6620746865617474656d70
  74696e6720746f20636172626f6e2064696f786964650a0a3c64697620636c6173733d22636c6173733d22736561726368
  2d2f626f64793e0a3c2f68746d6c3e6f70706f7274756e69747920746f636f6d6d756e69636174696f6e733c2f68656164
  3e0d0a3c626f6479207374796c653d2277696474683a5469e1babf6e67205669e1bb87746368616e67657320696e207468
  65626f726465722d636f6c6f723a23302220626f726465723d223022203c2f7370616e3e3c2f6469763e3c776173206469
  73636f76657265642220747970653d22746578742220293b0a3c2f7363726970743e0a0a4465706172746d656e74206f66
  206563636c6573696173746963616c746865726520686173206265656e726573756c74696e672066726f6d3c2f626f6479
  3e3c2f68746d6c3e686173206e65766572206265656e7468652066697273742074696d65696e20726573706f6e73652074
  6f6175746f6d61746963616c6c79203c2f6469763e0a0a3c646976206977617320636f6e7369646572656470657263656e
  74206f662074686522202f3e3c2f613e3c2f6469763e636f6c6c656374696f6e206f662064657363656e6465642066726f
  6d73656374696f6e206f66207468656163636570742d63686172736574746f20626520636f6e66757365646d656d626572
  206f66207468652070616464696e672d72696768743a7472616e736c6174696f6e206f66696e746572707265746174696f
  6e20687265663d27687474703a2f2f77686574686572206f72206e6f7454686572652061726520616c736f746865726520
  617265206d616e796120736d616c6c206e756d6265726f74686572207061727473206f66696d706f737369626c6520746f
  2020636c6173733d22627574746f6e6c6f636174656420696e207468652e20486f77657665722c20746865616e64206576
  656e7475616c6c7941742074686520656e64206f662062656361757365206f6620697473726570726573656e7473207468
  653c666f726d20616374696f6e3d22206d6574686f643d22706f737422697420697320706f737369626c656d6f7265206c
  696b656c7920746f616e20696e63726561736520696e6861766520616c736f206265656e636f72726573706f6e64732074
  6f616e6e6f756e6365642074686174616c69676e3d227269676874223e6d616e7920636f756e7472696573666f72206d61
  6e792079656172736561726c69657374206b6e6f776e62656361757365206974207761737074223e3c2f7363726970743e
  0d2076616c69676e3d22746f702220696e6861626974616e7473206f66666f6c6c6f77696e6720796561720d0a3c646976
  20636c6173733d226d696c6c696f6e2070656f706c65636f6e74726f7665727369616c20636f6e6365726e696e67207468
  656172677565207468617420746865676f7665726e6d656e7420616e6461207265666572656e636520746f7472616e7366
  657272656420746f64657363726962696e6720746865207374796c653d22636f6c6f723a616c74686f7567682074686572
  6562657374206b6e6f776e20666f727375626d697422206e616d653d226d756c7469706c69636174696f6e6d6f72652074
  68616e206f6e65207265636f676e6974696f6e206f66436f756e63696c206f662074686565646974696f6e206f66207468
  6520203c6d657461206e616d653d22456e7465727461696e6d656e7420617761792066726f6d20746865203b6d61726769
  6e2d72696768743a6174207468652074696d65206f66696e7665737469676174696f6e73636f6e6e656374656420776974
  68616e64206d616e79206f74686572616c74686f756768206974206973626567696e6e696e672077697468203c7370616e
  20636c6173733d2264657363656e64616e7473206f663c7370616e20636c6173733d226920616c69676e3d227269676874
  223c2f686561643e0a3c626f64792061737065637473206f66207468656861732073696e6365206265656e4575726f7065
  616e20556e696f6e72656d696e697363656e74206f666d6f726520646966666963756c745669636520507265736964656e
  74636f6d706f736974696f6e206f66706173736564207468726f7567686d6f726520696d706f7274616e74666f6e742d73
  697a653a313170786578706c616e6174696f6e206f6674686520636f6e63657074206f667772697474656e20696e207468
  65093c7370616e20636c6173733d226973206f6e65206f662074686520726573656d626c616e636520746f6f6e20746865
  2067726f756e6473776869636820636f6e7461696e73696e636c7564696e672074686520646566696e6564206279207468
  657075626c69636174696f6e206f666d65616e732074686174207468656f757473696465206f6620746865737570706f72
  74206f66207468653c696e70757420636c6173733d223c7370616e20636c6173733d2274284d6174682e72616e646f6d28
  296d6f73742070726f6d696e656e746465736372697074696f6e206f66436f6e7374616e74696e6f706c65776572652070
  75626c69736865643c64697620636c6173733d2273656170706561727320696e207468653122206865696768743d223122
  206d6f737420696d706f7274616e74776869636820696e636c75646573776869636820686164206265656e646573747275
  6374696f6e206f6674686520706f70756c6174696f6e0a093c64697620636c6173733d22706f73736962696c697479206f
  66736f6d6574696d6573207573656461707065617220746f206861766573756363657373206f6620746865696e74656e64
  656420746f20626570726573656e7420696e207468657374796c653d22636c6561723a620d0a3c2f7363726970743e0d0a
  3c77617320666f756e64656420696e696e7465727669657720776974685f69642220636f6e74656e743d22636170697461
  6c206f66207468650d0a3c6c696e6b2072656c3d227372656c65617365206f6620746865706f696e74206f757420746861
  74784d4c4874747052657175657374616e642073756273657175656e747365636f6e64206c617267657374766572792069
  6d706f7274616e7473706563696669636174696f6e7373757266616365206f66207468656170706c69656420746f207468
  65666f726569676e20706f6c6963795f736574446f6d61696e4e616d6565737461626c697368656420696e69732062656c
  696576656420746f496e206164646974696f6e20746f6d65616e696e67206f66207468656973206e616d65642061667465
  72746f2070726f7465637420746865697320726570726573656e7465644465636c61726174696f6e206f666d6f72652065
  6666696369656e74436c617373696669636174696f6e6f7468657220666f726d73206f6668652072657475726e65642074
  6f3c7370616e20636c6173733d2263706572666f726d616e6365206f662866756e6374696f6e2829207b0d696620616e64
  206f6e6c79206966726567696f6e73206f66207468656c656164696e6720746f2074686572656c6174696f6e7320776974
  68556e69746564204e6174696f6e737374796c653d226865696768743a6f74686572207468616e20746865797065222063
  6f6e74656e743d224173736f63696174696f6e206f660a3c2f686561643e0a3c626f64796c6f6361746564206f6e207468
  65697320726566657272656420746f28696e636c7564696e6720746865636f6e63656e74726174696f6e7374686520696e
  646976696475616c616d6f6e6720746865206d6f73747468616e20616e79206f746865722f3e0a3c6c696e6b2072656c3d
  222072657475726e2066616c73653b74686520707572706f7365206f66746865206162696c69747920746f3b636f6c6f72
  3a236666667d0a2e0a3c7370616e20636c6173733d22746865207375626a656374206f66646566696e6974696f6e73206f
  663e0d0a3c6c696e6b2072656c3d22636c61696d2074686174207468656861766520646576656c6f7065643c7461626c65
  2077696474683d2263656c6562726174696f6e206f66466f6c6c6f77696e672074686520746f2064697374696e67756973
  683c7370616e20636c6173733d226274616b657320706c61636520696e756e64657220746865206e616d656e6f74656420
  74686174207468653e3c215b656e6469665d2d2d3e0a7374796c653d226d617267696e2d696e7374656164206f66207468
  65696e74726f6475636564207468657468652070726f63657373206f66696e6372656173696e6720746865646966666572
  656e63657320696e657374696d617465642074686174657370656369616c6c79207468652f6469763e3c6469762069643d
  22776173206576656e7475616c6c797468726f7567686f75742068697374686520646966666572656e6365736f6d657468
  696e6720746861747370616e3e3c2f7370616e3e3c2f7369676e69666963616e746c79203e3c2f7363726970743e0d0a0d
  0a656e7669726f6e6d656e74616c20746f2070726576656e742074686568617665206265656e2075736564657370656369
  616c6c7920666f72756e6465727374616e6420746865697320657373656e7469616c6c7977657265207468652066697273
  74697320746865206c61726765737468617665206265656e206d61646522207372633d22687474703a2f2f696e74657270
  72657465642061737365636f6e642068616c66206f6663726f6c6c696e673d226e6f2220697320636f6d706f736564206f
  6649492c20486f6c7920526f6d616e697320657870656374656420746f68617665207468656972206f776e646566696e65
  6420617320746865747261646974696f6e616c6c79206861766520646966666572656e74617265206f6674656e20757365
  64746f20656e73757265207468617461677265656d656e742077697468636f6e7461696e696e6720746865617265206672
  657175656e746c79696e666f726d6174696f6e206f6e6578616d706c6520697320746865726573756c74696e6720696e20
  613c2f613e3c2f6c693e3c2f756c3e20636c6173733d22666f6f746572616e6420657370656369616c6c79747970653d22
  627574746f6e22203c2f7370616e3e3c2f7370616e3e776869636820696e636c756465643e0a3c6d657461206e616d653d
  22636f6e736964657265642074686563617272696564206f7574206279486f77657665722c206974206973626563616d65
  2070617274206f66696e2072656c6174696f6e20746f706f70756c617220696e20746865746865206361706974616c206f
  66776173206f6666696369616c6c79776869636820686173206265656e74686520486973746f7279206f66616c7465726e
  617469766520746f646966666572656e742066726f6d746f20737570706f72742074686573756767657374656420746861
  74696e207468652070726f6365737320203c64697620636c6173733d2274686520666f756e646174696f6e626563617573
  65206f6620686973636f6e6365726e6564207769746874686520756e69766572736974796f70706f73656420746f207468
  6574686520636f6e74657874206f663c7370616e20636c6173733d22707465787422206e616d653d22712209093c646976
  20636c6173733d2274686520736369656e7469666963726570726573656e7465642062796d617468656d6174696369616e
  73656c656374656420627920746865746861742068617665206265656e3e3c64697620636c6173733d2263646976206964
  3d22686561646572696e20706172746963756c61722c636f6e76657274656420696e746f293b0a3c2f7363726970743e0a
  3c7068696c6f736f70686963616c20737270736b6f6872766174736b697469e1babf6e67205669e1bb8774d0a0d183d181
  d181d0bad0b8d0b9d180d183d181d181d0bad0b8d0b9696e766573746967616369c3b36e7061727469636970616369c3b3
  6ed0bad0bed182d0bed180d18bd0b5d0bed0b1d0bbd0b0d181d182d0b8d0bad0bed182d0bed180d18bd0b9d187d0b5d0bb
  d0bed0b2d0b5d0bad181d0b8d181d182d0b5d0bcd18bd09dd0bed0b2d0bed181d182d0b8d0bad0bed182d0bed180d18bd1
  85d0bed0b1d0bbd0b0d181d182d18cd0b2d180d0b5d0bcd0b5d0bdd0b8d0bad0bed182d0bed180d0b0d18fd181d0b5d0b3
  d0bed0b4d0bdd18fd181d0bad0b0d187d0b0d182d18cd0bdd0bed0b2d0bed181d182d0b8d0a3d0bad180d0b0d0b8d0bdd1
  8bd0b2d0bed0bfd180d0bed181d18bd0bad0bed182d0bed180d0bed0b9d181d0b4d0b5d0bbd0b0d182d18cd0bfd0bed0bc
  d0bed189d18cd18ed181d180d0b5d0b4d181d182d0b2d0bed0b1d180d0b0d0b7d0bed0bcd181d182d0bed180d0bed0bdd1
  8bd183d187d0b0d181d182d0b8d0b5d182d0b5d187d0b5d0bdd0b8d0b5d093d0bbd0b0d0b2d0bdd0b0d18fd0b8d181d182
  d0bed180d0b8d0b8d181d0b8d181d182d0b5d0bcd0b0d180d0b5d188d0b5d0bdd0b8d18fd0a1d0bad0b0d187d0b0d182d1
  8cd0bfd0bed18dd182d0bed0bcd183d181d0bbd0b5d0b4d183d0b5d182d181d0bad0b0d0b7d0b0d182d18cd182d0bed0b2
  d0b0d180d0bed0b2d0bad0bed0bdd0b5d187d0bdd0bed180d0b5d188d0b5d0bdd0b8d0b5d0bad0bed182d0bed180d0bed0
  b5d0bed180d0b3d0b0d0bdd0bed0b2d0bad0bed182d0bed180d0bed0bcd0a0d0b5d0bad0bbd0b0d0bcd0b0d8a7d984d985
  d986d8aad8afd989d985d986d8aad8afd98ad8a7d8aad8a7d984d985d988d8b6d988d8b9d8a7d984d8a8d8b1d8a7d985d8
  acd8a7d984d985d988d8a7d982d8b9d8a7d984d8b1d8b3d8a7d8a6d984d985d8b4d8a7d8b1d983d8a7d8aad8a7d984d8a3
  d8b9d8b6d8a7d8a1d8a7d984d8b1d98ad8a7d8b6d8a9d8a7d984d8aad8b5d985d98ad985d8a7d984d8a7d8b9d8b6d8a7d8
  a1d8a7d984d986d8aad8a7d8a6d8acd8a7d984d8a3d984d8b9d8a7d8a8d8a7d984d8aad8b3d8acd98ad984d8a7d984d8a3
  d982d8b3d8a7d985d8a7d984d8b6d8bad8b7d8a7d8aad8a7d984d981d98ad8afd98ad988d8a7d984d8aad8b1d8add98ad8
  a8d8a7d984d8acd8afd98ad8afd8a9d8a7d984d8aad8b9d984d98ad985d8a7d984d8a3d8aed8a8d8a7d8b1d8a7d984d8a7
  d981d984d8a7d985d8a7d984d8a3d981d984d8a7d985d8a7d984d8aad8a7d8b1d98ad8aed8a7d984d8aad982d986d98ad8
  a9d8a7d984d8a7d984d8b9d8a7d8a8d8a7d984d8aed988d8a7d8b7d8b1d8a7d984d985d8acd8aad985d8b9d8a7d984d8af
  d98ad983d988d8b1d8a7d984d8b3d98ad8a7d8add8a9d8b9d8a8d8afd8a7d984d984d987d8a7d984d8aad8b1d8a8d98ad8
  a9d8a7d984d8b1d988d8a7d8a8d8b7d8a7d984d8a3d8afd8a8d98ad8a9d8a7d984d8a7d8aed8a8d8a7d8b1d8a7d984d985
  d8aad8add8afd8a9d8a7d984d8a7d8bad8a7d986d98a637572736f723a706f696e7465723b3c2f7469746c653e0a3c6d65
  7461202220687265663d22687474703a2f2f223e3c7370616e20636c6173733d226d656d62657273206f66207468652077
  696e646f772e6c6f636174696f6e766572746963616c2d616c69676e3a2f613e207c203c6120687265663d223c21646f63
  747970652068746d6c3e6d656469613d2273637265656e22203c6f7074696f6e2076616c75653d2266617669636f6e2e69
  636f22202f3e0a09093c64697620636c6173733d2263686172616374657269737469637322206d6574686f643d22676574
  22202f626f64793e0a3c2f68746d6c3e0a73686f72746375742069636f6e2220646f63756d656e742e7772697465287061
  6464696e672d626f74746f6d3a726570726573656e746174697665737375626d6974222076616c75653d22616c69676e3d
  2263656e74657222207468726f7567686f75742074686520736369656e63652066696374696f6e0a20203c64697620636c
  6173733d227375626d69742220636c6173733d226f6e65206f6620746865206d6f73742076616c69676e3d22746f70223e
  3c7761732065737461626c6973686564293b0d0a3c2f7363726970743e0d0a72657475726e2066616c73653b223e292e73
  74796c652e646973706c617962656361757365206f662074686520646f63756d656e742e636f6f6b69653c666f726d2061
  6374696f6e3d222f7d626f64797b6d617267696e3a303b456e6379636c6f7065646961206f6676657273696f6e206f6620
  746865202e637265617465456c656d656e74286e616d652220636f6e74656e743d223c2f6469763e0a3c2f6469763e0a0a
  61646d696e697374726174697665203c2f626f64793e0a3c2f68746d6c3e686973746f7279206f662074686520223e3c69
  6e70757420747970653d22706f7274696f6e206f66207468652061732070617274206f662074686520266e6273703b3c61
  20687265663d226f7468657220636f756e7472696573223e0a3c64697620636c6173733d223c2f7370616e3e3c2f737061
  6e3e3c496e206f7468657220776f7264732c646973706c61793a20626c6f636b3b636f6e74726f6c206f66207468652069
  6e74726f64756374696f6e206f662f3e0a3c6d657461206e616d653d2261732077656c6c2061732074686520696e207265
  63656e742079656172730d0a093c64697620636c6173733d223c2f6469763e0a093c2f6469763e0a696e73706972656420
  62792074686574686520656e64206f662074686520636f6d70617469626c652077697468626563616d65206b6e6f776e20
  6173207374796c653d226d617267696e3a2e6a73223e3c2f7363726970743e3c20496e7465726e6174696f6e616c207468
  6572652068617665206265656e4765726d616e206c616e6775616765207374796c653d22636f6c6f723a23436f6d6d756e
  697374205061727479636f6e73697374656e742077697468626f726465723d2230222063656c6c206d617267696e686569
  6768743d22746865206d616a6f72697479206f662220616c69676e3d2263656e74657272656c6174656420746f20746865
  206d616e7920646966666572656e74204f7274686f646f782043687572636873696d696c617220746f20746865202f3e0a
  3c6c696e6b2072656c3d2273776173206f6e65206f662074686520756e74696c206869732064656174687d2928293b0a3c
  2f7363726970743e6f74686572206c616e677561676573636f6d706172656420746f20746865706f7274696f6e73206f66
  20746865746865204e65746865726c616e6473746865206d6f737420636f6d6d6f6e6261636b67726f756e643a75726c28
  6172677565642074686174207468657363726f6c6c696e673d226e6f2220696e636c7564656420696e207468654e6f7274
  6820416d65726963616e20746865206e616d65206f6620746865696e746572707265746174696f6e737468652074726164
  6974696f6e616c646576656c6f706d656e74206f66206672657175656e746c7920757365646120636f6c6c656374696f6e
  206f66766572792073696d696c617220746f737572726f756e64696e67207468656578616d706c65206f66207468697361
  6c69676e3d2263656e746572223e776f756c642068617665206265656e696d6167655f63617074696f6e203d6174746163
  68656420746f2074686573756767657374696e672074686174696e2074686520666f726d206f6620696e766f6c76656420
  696e20746865697320646572697665642066726f6d6e616d656420616674657220746865496e74726f64756374696f6e20
  746f7265737472696374696f6e73206f6e207374796c653d2277696474683a2063616e206265207573656420746f207468
  65206372656174696f6e206f666d6f737420696d706f7274616e7420696e666f726d6174696f6e20616e64726573756c74
  656420696e20746865636f6c6c61707365206f662074686554686973206d65616e732074686174656c656d656e7473206f
  6620746865776173207265706c61636564206279616e616c79736973206f6620746865696e737069726174696f6e20666f
  727265676172646564206173207468656d6f7374207375636365737366756c6b6e6f776e206173202671756f743b612063
  6f6d70726568656e73697665486973746f7279206f6620746865207765726520636f6e7369646572656472657475726e65
  6420746f2074686561726520726566657272656420746f556e736f757263656420696d6167653e0a093c64697620636c61
  73733d22636f6e7369737473206f662074686573746f7050726f7061676174696f6e696e74657265737420696e20746865
  617661696c6162696c697479206f666170706561727320746f2068617665656c656374726f6d61676e65746963656e6162
  6c6553657276696365732866756e6374696f6e206f6620746865497420697320696d706f7274616e743c2f736372697074
  3e3c2f6469763e66756e6374696f6e28297b7661722072656c617469766520746f207468656173206120726573756c7420
  6f662074686520706f736974696f6e206f66466f72206578616d706c652c20696e206d6574686f643d22706f7374222077
  617320666f6c6c6f77656420627926616d703b6d646173683b20746865746865206170706c69636174696f6e6a73223e3c
  2f7363726970743e0d0a756c3e3c2f6469763e3c2f6469763e616674657220746865206465617468776974682072657370
  65637420746f7374796c653d2270616464696e673a697320706172746963756c61726c79646973706c61793a696e6c696e
  653b20747970653d227375626d697422206973206469766964656420696e746fe4b8ade696872028e7ae80e4bd93297265
  73706f6e736162696c6964616461646d696e69737472616369c3b36e696e7465726e6163696f6e616c6573636f72726573
  706f6e6469656e7465e0a489e0a4aae0a4afe0a58be0a497e0a4aae0a582e0a4b0e0a58de0a4b5e0a4b9e0a4aee0a4bee0
  a4b0e0a587e0a4b2e0a58be0a497e0a58be0a482e0a49ae0a581e0a4a8e0a4bee0a4b5e0a4b2e0a587e0a495e0a4bfe0a4
  a8e0a4b8e0a4b0e0a495e0a4bee0a4b0e0a4aae0a581e0a4b2e0a4bfe0a4b8e0a496e0a58be0a49ce0a587e0a482e0a49a
  e0a4bee0a4b9e0a4bfe0a48fe0a4ade0a587e0a49ce0a587e0a482e0a4b6e0a4bee0a4aee0a4bfe0a4b2e0a4b9e0a4aee0
  a4bee0a4b0e0a580e0a49ce0a4bee0a497e0a4b0e0a4a3e0a4ace0a4a8e0a4bee0a4a8e0a587e0a495e0a581e0a4aee0a4
  bee0a4b0e0a4ace0a58de0a4b2e0a589e0a497e0a4aee0a4bee0a4b2e0a4bfe0a495e0a4aee0a4b9e0a4bfe0a4b2e0a4be
  e0a4aae0a583e0a4b7e0a58de0a4a0e0a4ace0a4a2e0a4bce0a4a4e0a587e0a4ade0a4bee0a49ce0a4aae0a4bee0a495e0
  a58de0a4b2e0a4bfe0a495e0a49fe0a58de0a4b0e0a587e0a4a8e0a496e0a4bfe0a4b2e0a4bee0a4abe0a4a6e0a58ce0a4
  b0e0a4bee0a4a8e0a4aee0a4bee0a4aee0a4b2e0a587e0a4aee0a4a4e0a4a6e0a4bee0a4a8e0a4ace0a4bee0a49ce0a4be
  e0a4b0e0a4b5e0a4bfe0a495e0a4bee0a4b8e0a495e0a58de0a4afe0a58be0a482e0a49ae0a4bee0a4b9e0a4a4e0a587e0
  a4aae0a4b9e0a581e0a481e0a49ae0a4ace0a4a4e0a4bee0a4afe0a4bee0a4b8e0a482e0a4b5e0a4bee0a4a6e0a4a6e0a5
  87e0a496e0a4a8e0a587e0a4aae0a4bfe0a49be0a4b2e0a587e0a4b5e0a4bfe0a4b6e0a587e0a4b7e0a4b0e0a4bee0a49c
  e0a58de0a4afe0a489e0a4a4e0a58de0a4a4e0a4b0e0a4aee0a581e0a482e0a4ace0a488e0a4a6e0a58be0a4a8e0a58be0
  a482e0a489e0a4aae0a495e0a4b0e0a4a3e0a4aae0a4a2e0a4bce0a587e0a482e0a4b8e0a58de0a4a5e0a4bfe0a4a4e0a4
  abe0a4bfe0a4b2e0a58de0a4aee0a4aee0a581e0a496e0a58de0a4afe0a485e0a49ae0a58de0a49be0a4bee0a49be0a582
  e0a49fe0a4a4e0a580e0a4b8e0a482e0a497e0a580e0a4a4e0a49ce0a4bee0a48fe0a497e0a4bee0a4b5e0a4bfe0a4ade0
  a4bee0a497e0a498e0a4a3e0a58de0a49fe0a587e0a4a6e0a582e0a4b8e0a4b0e0a587e0a4a6e0a4bfe0a4a8e0a58be0a4
  82e0a4b9e0a4a4e0a58de0a4afe0a4bee0a4b8e0a587e0a495e0a58de0a4b8e0a497e0a4bee0a482e0a4a7e0a580e0a4b5
  e0a4bfe0a4b6e0a58de0a4b5e0a4b0e0a4bee0a4a4e0a587e0a482e0a4a6e0a588e0a49fe0a58de0a4b8e0a4a8e0a495e0
  a58de0a4b6e0a4bee0a4b8e0a4bee0a4aee0a4a8e0a587e0a485e0a4a6e0a4bee0a4b2e0a4a4e0a4ace0a4bfe0a49ce0a4
  b2e0a580e0a4aae0a581e0a4b0e0a582e0a4b7e0a4b9e0a4bfe0a482e0a4a6e0a580e0a4aee0a4bfe0a4a4e0a58de0a4b0
  e0a495e0a4b5e0a4bfe0a4a4e0a4bee0a4b0e0a581e0a4aae0a4afe0a587e0a4b8e0a58de0a4a5e0a4bee0a4a8e0a495e0
  a4b0e0a58be0a4a1e0a4bce0a4aee0a581e0a495e0a58de0a4a4e0a4afe0a58be0a49ce0a4a8e0a4bee0a495e0a583e0a4
  aae0a4afe0a4bee0a4aae0a58be0a4b8e0a58de0a49fe0a498e0a4b0e0a587e0a4b2e0a582e0a495e0a4bee0a4b0e0a58d
  e0a4afe0a4b5e0a4bfe0a49ae0a4bee0a4b0e0a4b8e0a582e0a49ae0a4a8e0a4bee0a4aee0a582e0a4b2e0a58de0a4afe0
  a4a6e0a587e0a496e0a587e0a482e0a4b9e0a4aee0a587e0a4b6e0a4bee0a4b8e0a58de0a495e0a582e0a4b2e0a4aee0a5
  88e0a482e0a4a8e0a587e0a4a4e0a588e0a4afe0a4bee0a4b0e0a49ce0a4bfe0a4b8e0a495e0a5877273732b786d6c2220
  7469746c653d222d747970652220636f6e74656e743d227469746c652220636f6e74656e743d226174207468652073616d
  652074696d652e6a73223e3c2f7363726970743e0a3c22206d6574686f643d22706f737422203c2f7370616e3e3c2f613e
  3c2f6c693e766572746963616c2d616c69676e3a742f6a71756572792e6d696e2e6a73223e2e636c69636b2866756e6374
  696f6e28207374796c653d2270616464696e672d7d2928293b0a3c2f7363726970743e0a3c2f7370616e3e3c6120687265
  663d223c6120687265663d22687474703a2f2f293b2072657475726e2066616c73653b746578742d6465636f726174696f
  6e3a207363726f6c6c696e673d226e6f2220626f726465722d636f6c6c617073653a6173736f6369617465642077697468
  2042616861736120496e646f6e65736961456e676c697368206c616e67756167653c7465787420786d6c3a73706163653d
  2e6769662220626f726465723d2230223c2f626f64793e0a3c2f68746d6c3e0a6f766572666c6f773a68696464656e3b69
  6d67207372633d22687474703a2f2f6164644576656e744c697374656e6572726573706f6e7369626c6520666f7220732e
  6a73223e3c2f7363726970743e0a2f66617669636f6e2e69636f22202f3e6f7065726174696e672073797374656d222073
  74796c653d2277696474683a317461726765743d225f626c616e6b223e537461746520556e697665727369747974657874
  2d616c69676e3a6c6566743b0a646f63756d656e742e7772697465282c20696e636c7564696e67207468652061726f756e
  642074686520776f726c64293b0d0a3c2f7363726970743e0d0a3c22207374796c653d226865696768743a3b6f76657266
  6c6f773a68696464656e6d6f726520696e666f726d6174696f6e616e20696e7465726e6174696f6e616c61206d656d6265
  72206f6620746865206f6e65206f662074686520666972737463616e20626520666f756e6420696e203c2f6469763e0a09
  093c2f6469763e0a646973706c61793a206e6f6e653b223e22202f3e0a3c6c696e6b2072656c3d220a20202866756e6374
  696f6e2829207b74686520313574682063656e747572792e70726576656e7444656661756c74286c61726765206e756d62
  6572206f662042797a616e74696e6520456d706972652e6a70677c7468756d627c6c6566747c76617374206d616a6f7269
  7479206f666d616a6f72697479206f66207468652020616c69676e3d2263656e746572223e556e69766572736974792050
  72657373646f6d696e61746564206279207468655365636f6e6420576f726c6420576172646973747269627574696f6e20
  6f66207374796c653d22706f736974696f6e3a7468652072657374206f662074686520636861726163746572697a656420
  62792072656c3d226e6f666f6c6c6f77223e646572697665732066726f6d20746865726174686572207468616e20746865
  206120636f6d62696e6174696f6e206f667374796c653d2277696474683a313030456e676c6973682d737065616b696e67
  636f6d707574657220736369656e6365626f726465723d22302220616c743d22746865206578697374656e6365206f6644
  656d6f63726174696320506172747922207374796c653d226d617267696e2d466f72207468697320726561736f6e2c2e6a
  73223e3c2f7363726970743e0a097342795461674e616d652873295b305d6a73223e3c2f7363726970743e0d0a3c2e6a73
  223e3c2f7363726970743e0d0a6c696e6b2072656c3d2269636f6e22202720616c743d272720636c6173733d27666f726d
  6174696f6e206f662074686576657273696f6e73206f6620746865203c2f613e3c2f6469763e3c2f6469763e2f70616765
  3e0a20203c706167653e0a3c64697620636c6173733d22636f6e74626563616d6520746865206669727374626168617361
  20496e646f6e65736961656e676c697368202873696d706c6529ce95cebbcebbceb7cebdceb9cebaceacd185d180d0b2d0
  b0d182d181d0bad0b8d0bad0bed0bcd0bfd0b0d0bdd0b8d0b8d18fd0b2d0bbd18fd0b5d182d181d18fd094d0bed0b1d0b0
  d0b2d0b8d182d18cd187d0b5d0bbd0bed0b2d0b5d0bad0b0d180d0b0d0b7d0b2d0b8d182d0b8d18fd098d0bdd182d0b5d1
  80d0bdd0b5d182d09ed182d0b2d0b5d182d0b8d182d18cd0bdd0b0d0bfd180d0b8d0bcd0b5d180d0b8d0bdd182d0b5d180
  d0bdd0b5d182d0bad0bed182d0bed180d0bed0b3d0bed181d182d180d0b0d0bdd0b8d186d18bd0bad0b0d187d0b5d181d1
  82d0b2d0b5d183d181d0bbd0bed0b2d0b8d18fd185d0bfd180d0bed0b1d0bbd0b5d0bcd18bd0bfd0bed0bbd183d187d0b8
  d182d18cd18fd0b2d0bbd18fd18ed182d181d18fd0bdd0b0d0b8d0b1d0bed0bbd0b5d0b5d0bad0bed0bcd0bfd0b0d0bdd0
  b8d18fd0b2d0bdd0b8d0bcd0b0d0bdd0b8d0b5d181d180d0b5d0b4d181d182d0b2d0b0d8a7d984d985d988d8a7d8b6d98a
  d8b9d8a7d984d8b1d8a6d98ad8b3d98ad8a9d8a7d984d8a7d986d8aad982d8a7d984d985d8b4d8a7d8b1d983d8a7d8aad9
  83d8a7d984d8b3d98ad8a7d8b1d8a7d8aad8a7d984d985d983d8aad988d8a8d8a9d8a7d984d8b3d8b9d988d8afd98ad8a9
  d8a7d8add8b5d8a7d8a6d98ad8a7d8aad8a7d984d8b9d8a7d984d985d98ad8a9d8a7d984d8b5d988d8aad98ad8a7d8aad8
  a7d984d8a7d986d8aad8b1d986d8aad8a7d984d8aad8b5d8a7d985d98ad985d8a7d984d8a5d8b3d984d8a7d985d98ad8a7
  d984d985d8b4d8a7d8b1d983d8a9d8a7d984d985d8b1d8a6d98ad8a7d8aa726f626f74732220636f6e74656e743d223c64
  69762069643d22666f6f746572223e74686520556e69746564205374617465733c696d67207372633d22687474703a2f2f
  2e6a70677c72696768747c7468756d627c2e6a73223e3c2f7363726970743e0d0a3c6c6f636174696f6e2e70726f746f63
  6f6c6672616d65626f726465723d223022207322202f3e0a3c6d657461206e616d653d223c2f613e3c2f6469763e3c2f64
  69763e3c666f6e742d7765696768743a626f6c643b2671756f743b20616e64202671756f743b646570656e64696e67206f
  6e20746865206d617267696e3a303b70616464696e673a222072656c3d226e6f666f6c6c6f772220507265736964656e74
  206f6620746865207477656e74696574682063656e7475727965766973696f6e3e0a20203c2f70616765496e7465726e65
  74204578706c6f726572612e6173796e63203d20747275653b0d0a696e666f726d6174696f6e2061626f75743c64697620
  69643d22686561646572223e2220616374696f6e3d22687474703a2f2f3c6120687265663d2268747470733a2f2f3c6469
  762069643d22636f6e74656e74223c2f6469763e0d0a3c2f6469763e0d0a3c646572697665642066726f6d20746865203c
  696d67207372633d27687474703a2f2f6163636f7264696e6720746f20746865200a3c2f626f64793e0a3c2f68746d6c3e
  0a7374796c653d22666f6e742d73697a653a736372697074206c616e67756167653d22417269616c2c2048656c76657469
  63612c3c2f613e3c7370616e20636c6173733d223c2f7363726970743e3c73637269707420706f6c69746963616c207061
  727469657374643e3c2f74723e3c2f7461626c653e3c687265663d22687474703a2f2f7777772e696e7465727072657461
  74696f6e206f6672656c3d227374796c6573686565742220646f63756d656e742e777269746528273c636861727365743d
  227574662d38223e0a626567696e6e696e67206f66207468652072657665616c656420746861742074686574656c657669
  73696f6e20736572696573222072656c3d226e6f666f6c6c6f77223e207461726765743d225f626c616e6b223e636c6169
  6d696e67207468617420746865687474702533412532462532467777772e6d616e69666573746174696f6e73206f665072
  696d65204d696e6973746572206f66696e666c75656e63656420627920746865636c6173733d22636c656172666978223e
  2f6469763e0d0a3c2f6469763e0d0a0d0a74687265652d64696d656e73696f6e616c436875726368206f6620456e676c61
  6e646f66204e6f727468204361726f6c696e61737175617265206b696c6f6d65747265732e6164644576656e744c697374
  656e657264697374696e63742066726f6d20746865636f6d6d6f6e6c79206b6e6f776e20617350686f6e6574696320416c
  7068616265746465636c61726564207468617420746865636f6e74726f6c6c65642062792074686542656e6a616d696e20
  4672616e6b6c696e726f6c652d706c6179696e672067616d6574686520556e6976657273697479206f66696e2057657374
  65726e204575726f7065706572736f6e616c20636f6d707574657250726f6a65637420477574656e626572677265676172
  646c657373206f6620746865686173206265656e2070726f706f736564746f6765746865722077697468207468653e3c2f
  6c693e3c6c6920636c6173733d22696e20736f6d6520636f756e74726965736d696e2e6a73223e3c2f7363726970743e6f
  662074686520706f70756c6174696f6e6f6666696369616c206c616e67756167653c696d67207372633d22696d61676573
  2f6964656e746966696564206279207468656e61747572616c207265736f7572636573636c617373696669636174696f6e
  206f6663616e20626520636f6e736964657265647175616e74756d206d656368616e6963734e657665727468656c657373
  2c207468656d696c6c696f6e2079656172732061676f3c2f626f64793e0d0a3c2f68746d6c3e0dce95cebbcebbceb7cebd
  ceb9cebaceac0a74616b6520616476616e74616765206f66616e642c206163636f7264696e6720746f6174747269627574
  656420746f207468654d6963726f736f66742057696e646f77737468652066697273742063656e74757279756e64657220
  74686520636f6e74726f6c64697620636c6173733d2268656164657273686f72746c79206166746572207468656e6f7461
  626c6520657863657074696f6e74656e73206f662074686f7573616e64737365766572616c20646966666572656e746172
  6f756e642074686520776f726c642e7265616368696e67206d696c697461727969736f6c617465642066726f6d20746865
  6f70706f736974696f6e20746f20746865746865204f6c642054657374616d656e744166726963616e20416d6572696361
  6e73696e73657274656420696e746f2074686573657061726174652066726f6d207468656d6574726f706f6c6974616e20
  617265616d616b657320697420706f737369626c6561636b6e6f776c656467656420746861746172677561626c79207468
  65206d6f7374747970653d22746578742f637373223e0a74686520496e7465726e6174696f6e616c4163636f7264696e67
  20746f207468652070653d22746578742f63737322202f3e0a636f696e6369646520776974682074686574776f2d746869
  726473206f6620746865447572696e6720746869732074696d652c647572696e672074686520706572696f64616e6e6f75
  6e636564207468617420686574686520696e7465726e6174696f6e616c616e64206d6f726520726563656e746c7962656c
  6965766564207468617420746865636f6e7363696f75736e65737320616e64666f726d65726c79206b6e6f776e20617373
  7572726f756e64656420627920746865666972737420617070656172656420696e6f63636173696f6e616c6c7920757365
  64706f736974696f6e3a6162736f6c7574653b22207461726765743d225f626c616e6b2220706f736974696f6e3a72656c
  61746976653b746578742d616c69676e3a63656e7465723b6a61782f6c6962732f6a71756572792f312e6261636b67726f
  756e642d636f6c6f723a23747970653d226170706c69636174696f6e2f616e67756167652220636f6e74656e743d223c6d
  65746120687474702d65717569763d225072697661637920506f6c6963793c2f613e652822253343736372697074207372
  633d2722207461726765743d225f626c616e6b223e4f6e20746865206f746865722068616e642c2e6a70677c7468756d62
  7c72696768747c323c2f6469763e3c64697620636c6173733d223c646976207374796c653d22666c6f61743a6e696e6574
  65656e74682063656e747572793c2f626f64793e0d0a3c2f68746d6c3e0d0a3c696d67207372633d22687474703a2f2f73
  3b746578742d616c69676e3a63656e746572666f6e742d7765696768743a20626f6c643b204163636f7264696e6720746f
  2074686520646966666572656e6365206265747765656e22206672616d65626f726465723d2230222022207374796c653d
  22706f736974696f6e3a6c696e6b20687265663d22687474703a2f2f68746d6c342f6c6f6f73652e647464223e0a647572
  696e67207468697320706572696f643c2f74643e3c2f74723e3c2f7461626c653e636c6f73656c792072656c6174656420
  746f666f72207468652066697273742074696d653b666f6e742d7765696768743a626f6c643b696e70757420747970653d
  227465787422203c7370616e207374796c653d22666f6e742d6f6e726561647973746174656368616e6765093c64697620
  636c6173733d22636c656172646f63756d656e742e6c6f636174696f6e2e20466f72206578616d706c652c207468652061
  20776964652076617269657479206f66203c21444f43545950452068746d6c3e0d0a3c266e6273703b266e6273703b266e
  6273703b223e3c6120687265663d22687474703a2f2f7374796c653d22666c6f61743a6c6566743b636f6e6365726e6564
  2077697468207468653d687474702533412532462532467777772e696e20706f70756c61722063756c7475726574797065
  3d22746578742f63737322202f3e697420697320706f737369626c6520746f204861727661726420556e69766572736974
  7974796c6573686565742220687265663d222f746865206d61696e206368617261637465724f78666f726420556e697665
  727369747920206e616d653d226b6579776f7264732220637374796c653d22746578742d616c69676e3a74686520556e69
  746564204b696e67646f6d6665646572616c20676f7665726e6d656e743c646976207374796c653d226d617267696e2064
  6570656e64696e67206f6e20746865206465736372697074696f6e206f66207468653c64697620636c6173733d22686561
  6465722e6d696e2e6a73223e3c2f7363726970743e6465737472756374696f6e206f6620746865736c696768746c792064
  6966666572656e74696e206163636f7264616e6365207769746874656c65636f6d6d756e69636174696f6e73696e646963
  6174657320746861742074686573686f72746c792074686572656166746572657370656369616c6c7920696e2074686520
  4575726f7065616e20636f756e7472696573486f77657665722c207468657265206172657372633d22687474703a2f2f73
  746174696373756767657374656420746861742074686522207372633d22687474703a2f2f7777772e61206c6172676520
  6e756d626572206f662054656c65636f6d6d756e69636174696f6e73222072656c3d226e6f666f6c6c6f77222074486f6c
  7920526f6d616e20456d7065726f72616c6d6f7374206578636c75736976656c792220626f726465723d22302220616c74
  3d22536563726574617279206f6620537461746563756c6d696e6174696e6720696e2074686543494120576f726c642046
  616374626f6f6b746865206d6f737420696d706f7274616e74616e6e6976657273617279206f66207468657374796c653d
  226261636b67726f756e642d3c6c693e3c656d3e3c6120687265663d222f7468652041746c616e746963204f6365616e73
  74726963746c7920737065616b696e672c73686f72746c79206265666f726520746865646966666572656e742074797065
  73206f66746865204f74746f6d616e20456d706972653e3c696d67207372633d22687474703a2f2f416e20496e74726f64
  756374696f6e20746f636f6e73657175656e6365206f66207468656465706172747572652066726f6d20746865436f6e66
  6564657261746520537461746573696e646967656e6f75732070656f706c657350726f63656564696e6773206f66207468
  65696e666f726d6174696f6e206f6e207468657468656f726965732068617665206265656e696e766f6c76656d656e7420
  696e207468656469766964656420696e746f20746872656561646a6163656e7420636f756e747269657369732072657370
  6f6e7369626c6520666f72646973736f6c7574696f6e206f6620746865636f6c6c61626f726174696f6e20776974687769
  64656c7920726567617264656420617368697320636f6e74656d706f726172696573666f756e64696e67206d656d626572
  206f66446f6d696e6963616e2052657075626c696367656e6572616c6c7920616363657074656474686520706f73736962
  696c697479206f6661726520616c736f20617661696c61626c65756e64657220636f6e737472756374696f6e726573746f
  726174696f6e206f66207468657468652067656e6572616c207075626c6963697320616c6d6f737420656e746972656c79
  706173736573207468726f75676820746865686173206265656e20737567676573746564636f6d707574657220616e6420
  766964656f4765726d616e6963206c616e677561676573206163636f7264696e6720746f2074686520646966666572656e
  742066726f6d2074686573686f72746c792061667465727761726473687265663d2268747470733a2f2f7777772e726563
  656e7420646576656c6f706d656e74426f617264206f66204469726563746f72733c64697620636c6173733d2273656172
  63687c203c6120687265663d22687474703a2f2f496e20706172746963756c61722c207468654d756c7469706c6520666f
  6f746e6f7465736f72206f74686572207375627374616e636574686f7573616e6473206f662079656172737472616e736c
  6174696f6e206f66207468653c2f6469763e0d0a3c2f6469763e0d0a0d0a3c6120687265663d22696e6465782e70687077
  61732065737461626c697368656420696e6d696e2e6a73223e3c2f7363726970743e0a706172746963697061746520696e
  2074686561207374726f6e6720696e666c75656e63657374796c653d226d617267696e2d746f703a726570726573656e74
  6564206279207468656772616475617465642066726f6d20746865547261646974696f6e616c6c792c20746865456c656d
  656e74282273637269707422293b486f77657665722c2073696e6365207468652f6469763e0a3c2f6469763e0a3c646976
  206c6566743b206d617267696e2d6c6566743a70726f74656374696f6e20616761696e7374303b20766572746963616c2d
  616c69676e3a556e666f7274756e6174656c792c20746865747970653d22696d6167652f782d69636f6e2f6469763e0a3c
  64697620636c6173733d2220636c6173733d22636c656172666978223e3c64697620636c6173733d22666f6f7465720909
  3c2f6469763e0a09093c2f6469763e0a746865206d6f74696f6e2070696374757265d091d18ad0bbd0b3d0b0d180d181d0
  bad0b8d0b1d18ad0bbd0b3d0b0d180d181d0bad0b8d0a4d0b5d0b4d0b5d180d0b0d186d0b8d0b8d0bdd0b5d181d0bad0be
  d0bbd18cd0bad0bed181d0bed0bed0b1d189d0b5d0bdd0b8d0b5d181d0bed0bed0b1d189d0b5d0bdd0b8d18fd0bfd180d0
  bed0b3d180d0b0d0bcd0bcd18bd09ed182d0bfd180d0b0d0b2d0b8d182d18cd0b1d0b5d181d0bfd0bbd0b0d182d0bdd0be
  d0bcd0b0d182d0b5d180d0b8d0b0d0bbd18bd0bfd0bed0b7d0b2d0bed0bbd18fd0b5d182d0bfd0bed181d0bbd0b5d0b4d0
  bdd0b8d0b5d180d0b0d0b7d0bbd0b8d187d0bdd18bd185d0bfd180d0bed0b4d183d0bad186d0b8d0b8d0bfd180d0bed0b3
  d180d0b0d0bcd0bcd0b0d0bfd0bed0bbd0bdd0bed181d182d18cd18ed0bdd0b0d185d0bed0b4d0b8d182d181d18fd0b8d0
  b7d0b1d180d0b0d0bdd0bdd0bed0b5d0bdd0b0d181d0b5d0bbd0b5d0bdd0b8d18fd0b8d0b7d0bcd0b5d0bdd0b5d0bdd0b8
  d18fd0bad0b0d182d0b5d0b3d0bed180d0b8d0b8d090d0bbd0b5d0bad181d0b0d0bdd0b4d180e0a4a6e0a58de0a4b5e0a4
  bee0a4b0e0a4bee0a4aee0a588e0a4a8e0a581e0a485e0a4b2e0a4aae0a58de0a4b0e0a4a6e0a4bee0a4a8e0a4ade0a4be
  e0a4b0e0a4a4e0a580e0a4afe0a485e0a4a8e0a581e0a4a6e0a587e0a4b6e0a4b9e0a4bfe0a4a8e0a58de0a4a6e0a580e0
  a487e0a482e0a4a1e0a4bfe0a4afe0a4bee0a4a6e0a4bfe0a4b2e0a58de0a4b2e0a580e0a485e0a4a7e0a4bfe0a495e0a4
  bee0a4b0e0a4b5e0a580e0a4a1e0a4bfe0a4afe0a58be0a49ae0a4bfe0a49fe0a58de0a4a0e0a587e0a4b8e0a4aee0a4be
  e0a49ae0a4bee0a4b0e0a49ce0a482e0a495e0a58de0a4b6e0a4a8e0a4a6e0a581e0a4a8e0a4bfe0a4afe0a4bee0a4aae0
  a58de0a4b0e0a4afe0a58be0a497e0a485e0a4a8e0a581e0a4b8e0a4bee0a4b0e0a491e0a4a8e0a4b2e0a4bee0a487e0a4
  a8e0a4aae0a4bee0a4b0e0a58de0a49fe0a580e0a4b6e0a4b0e0a58de0a4a4e0a58be0a482e0a4b2e0a58be0a495e0a4b8
  e0a4ade0a4bee0a4abe0a4bce0a58de0a4b2e0a588e0a4b6e0a4b6e0a4b0e0a58de0a4a4e0a587e0a482e0a4aae0a58de0
  a4b0e0a4a6e0a587e0a4b6e0a4aae0a58de0a4b2e0a587e0a4afe0a4b0e0a495e0a587e0a482e0a4a6e0a58de0a4b0e0a4
  b8e0a58de0a4a5e0a4bfe0a4a4e0a4bfe0a489e0a4a4e0a58de0a4aae0a4bee0a4a6e0a489e0a4a8e0a58de0a4b9e0a587
  e0a482e0a49ae0a4bfe0a49fe0a58de0a4a0e0a4bee0a4afe0a4bee0a4a4e0a58de0a4b0e0a4bee0a49ce0a58de0a4afe0
  a4bee0a4a6e0a4bee0a4aae0a581e0a4b0e0a4bee0a4a8e0a587e0a49ce0a58be0a4a1e0a4bce0a587e0a482e0a485e0a4
  a8e0a581e0a4b5e0a4bee0a4a6e0a4b6e0a58de0a4b0e0a587e0a4a3e0a580e0a4b6e0a4bfe0a495e0a58de0a4b7e0a4be
  e0a4b8e0a4b0e0a495e0a4bee0a4b0e0a580e0a4b8e0a482e0a497e0a58de0a4b0e0a4b9e0a4aae0a4b0e0a4bfe0a4a3e0
  a4bee0a4aee0a4ace0a58de0a4b0e0a4bee0a482e0a4a1e0a4ace0a49ae0a58de0a49ae0a58be0a482e0a489e0a4aae0a4
  b2e0a4ace0a58de0a4a7e0a4aee0a482e0a4a4e0a58de0a4b0e0a580e0a4b8e0a482e0a4aae0a4b0e0a58de0a495e0a489
  e0a4aee0a58de0a4aee0a580e0a4a6e0a4aee0a4bee0a4a7e0a58de0a4afe0a4aee0a4b8e0a4b9e0a4bee0a4afe0a4a4e0
  a4bee0a4b6e0a4ace0a58de0a4a6e0a58be0a482e0a4aee0a580e0a4a1e0a4bfe0a4afe0a4bee0a486e0a488e0a4aae0a5
  80e0a48fe0a4b2e0a4aee0a58be0a4ace0a4bee0a487e0a4b2e0a4b8e0a482e0a496e0a58de0a4afe0a4bee0a486e0a4aa
  e0a4b0e0a587e0a4b6e0a4a8e0a485e0a4a8e0a581e0a4ace0a482e0a4a7e0a4ace0a4bee0a49ce0a4bce0a4bee0a4b0e0
  a4a8e0a4b5e0a580e0a4a8e0a4a4e0a4aee0a4aae0a58de0a4b0e0a4aee0a581e0a496e0a4aae0a58de0a4b0e0a4b6e0a5
  8de0a4a8e0a4aae0a4b0e0a4bfe0a4b5e0a4bee0a4b0e0a4a8e0a581e0a495e0a4b8e0a4bee0a4a8e0a4b8e0a4aee0a4b0
  e0a58de0a4a5e0a4a8e0a486e0a4afe0a58be0a49ce0a4bfe0a4a4e0a4b8e0a58be0a4aee0a4b5e0a4bee0a4b0d8a7d984
  d985d8b4d8a7d8b1d983d8a7d8aad8a7d984d985d986d8aad8afd98ad8a7d8aad8a7d984d983d985d8a8d98ad988d8aad8
  b1d8a7d984d985d8b4d8a7d987d8afd8a7d8aad8b9d8afd8afd8a7d984d8b2d988d8a7d8b1d8b9d8afd8afd8a7d984d8b1
  d8afd988d8afd8a7d984d8a5d8b3d984d8a7d985d98ad8a9d8a7d984d981d988d8aad988d8b4d988d8a8d8a7d984d985d8
  b3d8a7d8a8d982d8a7d8aad8a7d984d985d8b9d984d988d985d8a7d8aad8a7d984d985d8b3d984d8b3d984d8a7d8aad8a7
  d984d8acd8b1d8a7d981d98ad983d8b3d8a7d984d8a7d8b3d984d8a7d985d98ad8a9d8a7d984d8a7d8aad8b5d8a7d984d8
  a7d8aa6b6579776f7264732220636f6e74656e743d2277332e6f72672f313939392f7868746d6c223e3c61207461726765
  743d225f626c616e6b2220746578742f68746d6c3b20636861727365743d22207461726765743d225f626c616e6b223e3c
  7461626c652063656c6c70616464696e673d226175746f636f6d706c6574653d226f66662220746578742d616c69676e3a
  2063656e7465723b746f206c6173742076657273696f6e206279206261636b67726f756e642d636f6c6f723a2023222068
  7265663d22687474703a2f2f7777772e2f6469763e3c2f6469763e3c6469762069643d3c6120687265663d22232220636c
  6173733d22223e3c696d67207372633d22687474703a2f2f637269707422207372633d22687474703a2f2f0a3c73637269
  7074206c616e67756167653d222f2f454e222022687474703a2f2f7777772e77656e636f6465555249436f6d706f6e656e
  74282220687265663d226a6176617363726970743a3c64697620636c6173733d22636f6e74656e74646f63756d656e742e
  777269746528273c7363706f736974696f6e3a206162736f6c7574653b736372697074207372633d22687474703a2f2f20
  7374796c653d226d617267696e2d746f703a2e6d696e2e6a73223e3c2f7363726970743e0a3c2f6469763e0a3c64697620
  636c6173733d2277332e6f72672f313939392f7868746d6c22200a0d0a3c2f626f64793e0d0a3c2f68746d6c3e64697374
  696e6374696f6e206265747765656e2f22207461726765743d225f626c616e6b223e3c6c696e6b20687265663d22687474
  703a2f2f656e636f64696e673d227574662d38223f3e0a772e6164644576656e744c697374656e65723f616374696f6e3d
  22687474703a2f2f7777772e69636f6e2220687265663d22687474703a2f2f207374796c653d226261636b67726f756e64
  3a747970653d22746578742f63737322202f3e0a6d6574612070726f70657274793d226f673a743c696e70757420747970
  653d22746578742220207374796c653d22746578742d616c69676e3a74686520646576656c6f706d656e74206f66207479
  6c6573686565742220747970653d22746568746d6c3b20636861727365743d7574662d38697320636f6e73696465726564
  20746f2062657461626c652077696474683d22313030252220496e206164646974696f6e20746f2074686520636f6e7472
  69627574656420746f2074686520646966666572656e636573206265747765656e646576656c6f706d656e74206f662074
  686520497420697320696d706f7274616e7420746f203c2f7363726970743e0a0a3c73637269707420207374796c653d22
  666f6e742d73697a653a313e3c2f7370616e3e3c7370616e2069643d67624c696272617279206f6620436f6e6772657373
  3c696d67207372633d22687474703a2f2f696d456e676c697368207472616e736c6174696f6e41636164656d79206f6620
  536369656e636573646976207374796c653d22646973706c61793a636f6e737472756374696f6e206f66207468652e6765
  74456c656d656e744279496428696429696e20636f6e6a756e6374696f6e2077697468456c656d656e7428277363726970
  7427293b203c6d6574612070726f70657274793d226f673ad091d18ad0bbd0b3d0b0d180d181d0bad0b80a20747970653d
  227465787422206e616d653d223e5072697661637920506f6c6963793c2f613e61646d696e697374657265642062792074
  6865656e61626c6553696e676c65526571756573747374796c653d2671756f743b6d617267696e3a3c2f6469763e3c2f64
  69763e3c2f6469763e3c3e3c696d67207372633d22687474703a2f2f69207374796c653d2671756f743b666c6f61743a72
  6566657272656420746f2061732074686520746f74616c20706f70756c6174696f6e206f66696e2057617368696e67746f
  6e2c20442e432e207374796c653d226261636b67726f756e642d616d6f6e67206f74686572207468696e67732c6f726761
  6e697a6174696f6e206f662074686570617274696369706174656420696e2074686574686520696e74726f64756374696f
  6e206f666964656e74696669656420776974682074686566696374696f6e616c20636861726163746572204f78666f7264
  20556e6976657273697479206d6973756e6465727374616e64696e67206f665468657265206172652c20686f7765766572
  2c7374796c6573686565742220687265663d222f436f6c756d62696120556e6976657273697479657870616e6465642074
  6f20696e636c756465757375616c6c7920726566657272656420746f696e6469636174696e672074686174207468656861
  7665207375676765737465642074686174616666696c6961746564207769746820746865636f7272656c6174696f6e2062
  65747765656e6e756d626572206f6620646966666572656e743e3c2f74643e3c2f74723e3c2f7461626c653e5265707562
  6c6963206f66204972656c616e640a3c2f7363726970743e0a3c73637269707420756e6465722074686520696e666c7565
  6e6365636f6e747269627574696f6e20746f207468654f6666696369616c2077656273697465206f666865616471756172
  74657273206f662074686563656e74657265642061726f756e6420746865696d706c69636174696f6e73206f6620746865
  68617665206265656e20646576656c6f7065644665646572616c2052657075626c6963206f66626563616d6520696e6372
  656173696e676c79636f6e74696e756174696f6e206f66207468654e6f74652c20686f77657665722c207468617473696d
  696c617220746f2074686174206f66206361706162696c6974696573206f66207468656163636f7264616e636520776974
  68207468657061727469636970616e747320696e207468656675727468657220646576656c6f706d656e74756e64657220
  74686520646972656374696f6e6973206f6674656e20636f6e7369646572656468697320796f756e6765722062726f7468
  65723c2f74643e3c2f74723e3c2f7461626c653e3c6120687474702d65717569763d22582d55412d706879736963616c20
  70726f706572746965736f66204272697469736820436f6c756d626961686173206265656e20637269746963697a656428
  776974682074686520657863657074696f6e7175657374696f6e732061626f75742074686570617373696e67207468726f
  7567682074686530222063656c6c70616464696e673d2230222074686f7573616e6473206f662070656f706c6572656469
  726563747320686572652e20466f7268617665206368696c6472656e20756e6465722533452533432f7363726970742533
  452229293b3c6120687265663d22687474703a2f2f7777772e3c6c693e3c6120687265663d22687474703a2f2f73697465
  5f6e616d652220636f6e74656e743d22746578742d6465636f726174696f6e3a6e6f6e657374796c653d22646973706c61
  793a206e6f6e653c6d65746120687474702d65717569763d22582d6e6577204461746528292e67657454696d6528292074
  7970653d22696d6167652f782d69636f6e223c2f7370616e3e3c7370616e20636c6173733d226c616e67756167653d226a
  61766173637269707477696e646f772e6c6f636174696f6e2e687265663c6120687265663d226a6176617363726970743a
  2d2d3e0d0a3c73637269707420747970653d22743c6120687265663d27687474703a2f2f7777772e686f72746375742069
  636f6e2220687265663d223c2f6469763e0d0a3c64697620636c6173733d223c736372697074207372633d22687474703a
  2f2f222072656c3d227374796c6573686565742220743c2f6469763e0a3c73637269707420747970653d2f613e203c6120
  687265663d22687474703a2f2f20616c6c6f775472616e73706172656e63793d22582d55412d436f6d70617469626c6522
  20636f6e72656c6174696f6e73686970206265747765656e0a3c2f7363726970743e0d0a3c736372697074203c2f613e3c
  2f6c693e3c2f756c3e3c2f6469763e6173736f6369617465642077697468207468652070726f6772616d6d696e67206c61
  6e67756167653c2f613e3c6120687265663d22687474703a2f2f3c2f613e3c2f6c693e3c6c6920636c6173733d22666f72
  6d20616374696f6e3d22687474703a2f2f3c646976207374796c653d22646973706c61793a747970653d22746578742220
  6e616d653d2271223c7461626c652077696474683d223130302522206261636b67726f756e642d706f736974696f6e3a22
  20626f726465723d2230222077696474683d2272656c3d2273686f72746375742069636f6e222068363e3c756c3e3c6c69
  3e3c6120687265663d2220203c6d65746120687474702d65717569763d2263737322206d656469613d2273637265656e22
  20726573706f6e7369626c6520666f7220746865202220747970653d226170706c69636174696f6e2f22207374796c653d
  226261636b67726f756e642d68746d6c3b20636861727365743d7574662d382220616c6c6f777472616e73706172656e63
  793d227374796c6573686565742220747970653d2274650d0a3c6d65746120687474702d65717569763d223e3c2f737061
  6e3e3c7370616e20636c6173733d2230222063656c6c73706163696e673d2230223e3b0a3c2f7363726970743e0a3c7363
  7269707420736f6d6574696d65732063616c6c656420746865646f6573206e6f74206e65636573736172696c79466f7220
  6d6f726520696e666f726d6174696f6e61742074686520626567696e6e696e67206f66203c21444f43545950452068746d
  6c3e3c68746d6c706172746963756c61726c7920696e2074686520747970653d2268696464656e22206e616d653d226a61
  76617363726970743a766f69642830293b226566666563746976656e657373206f6620746865206175746f636f6d706c65
  74653d226f6666222067656e6572616c6c7920636f6e736964657265643e3c696e70757420747970653d22746578742220
  223e3c2f7363726970743e0d0a3c7363726970747468726f7567686f75742074686520776f726c64636f6d6d6f6e206d69
  73636f6e63657074696f6e6173736f63696174696f6e2077697468207468653c2f6469763e0a3c2f6469763e0a3c646976
  2063647572696e6720686973206c69666574696d652c636f72726573706f6e64696e6720746f20746865747970653d2269
  6d6167652f782d69636f6e2220616e20696e6372656173696e67206e756d6265726469706c6f6d617469632072656c6174
  696f6e73617265206f6674656e20636f6e736964657265646d65746120636861727365743d227574662d3822203c696e70
  757420747970653d227465787422206578616d706c657320696e636c75646520746865223e3c696d67207372633d226874
  74703a2f2f6970617274696369706174696f6e20696e207468657468652065737461626c6973686d656e74206f660a3c2f
  6469763e0a3c64697620636c6173733d2226616d703b6e6273703b26616d703b6e6273703b746f2064657465726d696e65
  2077686574686572717569746520646966666572656e742066726f6d6d61726b65642074686520626567696e6e696e6764
  697374616e6365206265747765656e20746865636f6e747269627574696f6e7320746f20746865636f6e666c6963742062
  65747765656e20746865776964656c7920636f6e7369646572656420746f776173206f6e65206f66207468652066697273
  74776974682076617279696e672064656772656573686176652073706563756c61746564207468617428646f63756d656e
  742e676574456c656d656e7470617274696369706174696e6720696e207468656f726967696e616c6c7920646576656c6f
  70656465746120636861727365743d227574662d38223e20747970653d22746578742f63737322202f3e0a696e74657263
  68616e676561626c7920776974686d6f726520636c6f73656c792072656c61746564736f6369616c20616e6420706f6c69
  746963616c7468617420776f756c64206f746865727769736570657270656e646963756c617220746f207468657374796c
  6520747970653d22746578742f637373747970653d227375626d697422206e616d653d2266616d696c6965732072657369
  64696e6720696e646576656c6f70696e6720636f756e7472696573636f6d70757465722070726f6772616d6d696e676563
  6f6e6f6d696320646576656c6f706d656e7464657465726d696e6174696f6e206f6620746865666f72206d6f726520696e
  666f726d6174696f6e6f6e207365766572616c206f63636173696f6e73706f7274756775c3aa7320284575726f70657529
  d0a3d0bad180d0b0d197d0bdd181d18cd0bad0b0d183d0bad180d0b0d197d0bdd181d18cd0bad0b0d0a0d0bed181d181d0
  b8d0b9d181d0bad0bed0b9d0bcd0b0d182d0b5d180d0b8d0b0d0bbd0bed0b2d0b8d0bdd184d0bed180d0bcd0b0d186d0b8
  d0b8d183d0bfd180d0b0d0b2d0bbd0b5d0bdd0b8d18fd0bdd0b5d0bed0b1d185d0bed0b4d0b8d0bcd0bed0b8d0bdd184d0
  bed180d0bcd0b0d186d0b8d18fd098d0bdd184d0bed180d0bcd0b0d186d0b8d18fd0a0d0b5d181d0bfd183d0b1d0bbd0b8
  d0bad0b8d0bad0bed0bbd0b8d187d0b5d181d182d0b2d0bed0b8d0bdd184d0bed180d0bcd0b0d186d0b8d18ed182d0b5d1
  80d180d0b8d182d0bed180d0b8d0b8d0b4d0bed181d182d0b0d182d0bed187d0bdd0bed8a7d984d985d8aad988d8a7d8ac
  d8afd988d986d8a7d984d8a7d8b4d8aad8b1d8a7d983d8a7d8aad8a7d984d8a7d982d8aad8b1d8a7d8add8a7d8aa68746d
  6c3b20636861727365743d5554462d38222073657454696d656f75742866756e6374696f6e2829646973706c61793a696e
  6c696e652d626c6f636b3b3c696e70757420747970653d227375626d6974222074797065203d2027746578742f6a617661
  736372693c696d67207372633d22687474703a2f2f7777772e222022687474703a2f2f7777772e77332e6f72672f73686f
  72746375742069636f6e2220687265663d2222206175746f636f6d706c6574653d226f666622203c2f613e3c2f6469763e
  3c64697620636c6173733d3c2f613e3c2f6c693e0a3c6c6920636c6173733d226373732220747970653d22746578742f63
  737322203c666f726d20616374696f6e3d22687474703a2f2f78742f6373732220687265663d22687474703a2f2f6c696e
  6b2072656c3d22616c7465726e61746522200d0a3c73637269707420747970653d22746578742f206f6e636c69636b3d22
  6a6176617363726970743a286e65772044617465292e67657454696d6528297d6865696768743d2231222077696474683d
  2231222050656f706c6527732052657075626c6963206f6620203c6120687265663d22687474703a2f2f7777772e746578
  742d6465636f726174696f6e3a756e64657274686520626567696e6e696e67206f6620746865203c2f6469763e0a3c2f64
  69763e0a3c2f6469763e0a65737461626c6973686d656e74206f6620746865203c2f6469763e3c2f6469763e3c2f646976
  3e3c2f642376696577706f72747b6d696e2d6865696768743a0a3c736372697074207372633d22687474703a2f2f6f7074
  696f6e3e3c6f7074696f6e2076616c75653d6f6674656e20726566657272656420746f206173202f6f7074696f6e3e0a3c
  6f7074696f6e2076616c753c21444f43545950452068746d6c3e0a3c212d2d5b496e7465726e6174696f6e616c20416972
  706f72743e0a3c6120687265663d22687474703a2f2f7777773c2f613e3c6120687265663d22687474703a2f2f77e0b8a0
  e0b8b2e0b8a9e0b8b2e0b984e0b897e0b8a2e183a5e18390e183a0e18397e183a3e1839ae18398e6ada3e9ab94e4b8ade6
  96872028e7b981e9ab9429e0a4a8e0a4bfe0a4b0e0a58de0a4a6e0a587e0a4b6e0a4a1e0a4bee0a489e0a4a8e0a4b2e0a5
  8be0a4a1e0a495e0a58de0a4b7e0a587e0a4a4e0a58de0a4b0e0a49ce0a4bee0a4a8e0a495e0a4bee0a4b0e0a580e0a4b8
  e0a482e0a4ace0a482e0a4a7e0a4bfe0a4a4e0a4b8e0a58de0a4a5e0a4bee0a4aae0a4a8e0a4bee0a4b8e0a58de0a4b5e0
  a580e0a495e0a4bee0a4b0e0a4b8e0a482e0a4b8e0a58de0a495e0a4b0e0a4a3e0a4b8e0a4bee0a4aee0a497e0a58de0a4
  b0e0a580e0a49ae0a4bfe0a49fe0a58de0a4a0e0a58be0a482e0a4b5e0a4bfe0a49ce0a58de0a49ee0a4bee0a4a8e0a485
  e0a4aee0a587e0a4b0e0a4bfe0a495e0a4bee0a4b5e0a4bfe0a4ade0a4bfe0a4a8e0a58de0a4a8e0a497e0a4bee0a4a1e0
  a4bfe0a4afe0a4bee0a481e0a495e0a58de0a4afe0a58be0a482e0a495e0a4bfe0a4b8e0a581e0a4b0e0a495e0a58de0a4
  b7e0a4bee0a4aae0a4b9e0a581e0a481e0a49ae0a4a4e0a580e0a4aae0a58de0a4b0e0a4ace0a482e0a4a7e0a4a8e0a49f
  e0a4bfe0a4aae0a58de0a4aae0a4a3e0a580e0a495e0a58de0a4b0e0a4bfe0a495e0a587e0a49fe0a4aae0a58de0a4b0e0
  a4bee0a4b0e0a482e0a4ade0a4aae0a58de0a4b0e0a4bee0a4aae0a58de0a4a4e0a4aee0a4bee0a4b2e0a4bfe0a495e0a5
  8be0a482e0a4b0e0a4abe0a4bce0a58de0a4a4e0a4bee0a4b0e0a4a8e0a4bfe0a4b0e0a58de0a4aee0a4bee0a4a3e0a4b2
  e0a4bfe0a4aee0a4bfe0a49fe0a587e0a4a16465736372697074696f6e2220636f6e74656e743d22646f63756d656e742e
  6c6f636174696f6e2e70726f742e676574456c656d656e747342795461674e616d65283c21444f43545950452068746d6c
  3e0a3c68746d6c203c6d65746120636861727365743d227574662d38223e3a75726c2220636f6e74656e743d2268747470
  3a2f2f2e637373222072656c3d227374796c657368656574227374796c6520747970653d22746578742f637373223e7479
  70653d22746578742f6373732220687265663d2277332e6f72672f313939392f7868746d6c2220786d6c747970653d2274
  6578742f6a61766173637269707422206d6574686f643d226765742220616374696f6e3d226c696e6b2072656c3d227374
  796c6573686565742220203d20646f63756d656e742e676574456c656d656e74747970653d22696d6167652f782d69636f
  6e22202f3e63656c6c70616464696e673d2230222063656c6c73702e6373732220747970653d22746578742f6373732220
  3c2f613e3c2f6c693e3c6c693e3c6120687265663d22222077696474683d223122206865696768743d223122223e3c6120
  687265663d22687474703a2f2f7777772e7374796c653d22646973706c61793a6e6f6e653b223e616c7465726e61746522
  20747970653d226170706c692d2f2f5733432f2f445444205848544d4c20312e3020656c6c73706163696e673d22302220
  63656c6c70616420747970653d2268696464656e222076616c75653d222f613e266e6273703b3c7370616e20726f6c653d
  22730a3c696e70757420747970653d2268696464656e22206c616e67756167653d224a617661536372697074222020646f
  63756d656e742e676574456c656d656e747342673d2230222063656c6c73706163696e673d223022207970653d22746578
  742f63737322206d656469613d22747970653d27746578742f6a6176617363726970742777697468207468652065786365
  7074696f6e206f66207970653d22746578742f637373222072656c3d227374206865696768743d2231222077696474683d
  223122203d272b656e636f6465555249436f6d706f6e656e74283c6c696e6b2072656c3d22616c7465726e61746522200a
  626f64792c2074722c20696e7075742c20746578746d657461206e616d653d22726f626f74732220636f6e6d6574686f64
  3d22706f73742220616374696f6e3d223e0a3c6120687265663d22687474703a2f2f7777772e637373222072656c3d2273
  74796c65736865657422203c2f6469763e3c2f6469763e3c64697620636c6173736c616e67756167653d226a6176617363
  72697074223e617269612d68696464656e3d2274727565223ec2b73c726970742220747970653d22746578742f6a617661
  736c3d303b7d2928293b0a2866756e6374696f6e28297b6261636b67726f756e642d696d6167653a2075726c282f613e3c
  2f6c693e3c6c693e3c6120687265663d226809093c6c693e3c6120687265663d22687474703a2f2f61746f722220617269
  612d68696464656e3d227472753e203c6120687265663d22687474703a2f2f7777772e6c616e67756167653d226a617661
  73637269707422202f6f7074696f6e3e0a3c6f7074696f6e2076616c75652f6469763e3c2f6469763e3c64697620636c61
  73733d7261746f722220617269612d68696464656e3d227472653d286e65772044617465292e67657454696d652829706f
  7274756775c3aa732028646f2042726173696c29d0bed180d0b3d0b0d0bdd0b8d0b7d0b0d186d0b8d0b8d0b2d0bed0b7d0
  bcd0bed0b6d0bdd0bed181d182d18cd0bed0b1d180d0b0d0b7d0bed0b2d0b0d0bdd0b8d18fd180d0b5d0b3d0b8d181d182
  d180d0b0d186d0b8d0b8d0b2d0bed0b7d0bcd0bed0b6d0bdd0bed181d182d0b8d0bed0b1d18fd0b7d0b0d182d0b5d0bbd1
  8cd0bdd0b03c21444f43545950452068746d6c205055424c494320226e742d547970652220636f6e74656e743d22746578
  742f3c6d65746120687474702d65717569763d22436f6e746572616e736974696f6e616c2f2f454e222022687474703a3c
  68746d6c20786d6c6e733d22687474703a2f2f7777772d2f2f5733432f2f445444205848544d4c20312e3020544454442f
  7868746d6c312d7472616e736974696f6e616c2f2f7777772e77332e6f72672f54522f7868746d6c312f7065203d202774
  6578742f6a617661736372697074273b3c6d657461206e616d653d226465736372697074696f6e706172656e744e6f6465
  2e696e736572744265666f72653c696e70757420747970653d2268696464656e22206e616a732220747970653d22746578
  742f6a6176617363726928646f63756d656e74292e72656164792866756e63746973637269707420747970653d22746578
  742f6a61766173696d6167652220636f6e74656e743d22687474703a2f2f55412d436f6d70617469626c652220636f6e74
  656e743d746d6c3b20636861727365743d7574662d3822202f3e0a6c696e6b2072656c3d2273686f72746375742069636f
  6e3c6c696e6b2072656c3d227374796c65736865657422203c2f7363726970743e0a3c73637269707420747970653d3d20
  646f63756d656e742e637265617465456c656d656e3c61207461726765743d225f626c616e6b2220687265663d20646f63
  756d656e742e676574456c656d656e747342696e70757420747970653d227465787422206e616d653d612e74797065203d
  2027746578742f6a617661736372696e70757420747970653d2268696464656e22206e616d6568746d6c3b206368617273
  65743d7574662d3822202f3e647464223e0a3c68746d6c20786d6c6e733d22687474702d2f2f5733432f2f445444204854
  4d4c20342e30312054656e747342795461674e616d6528277363726970742729696e70757420747970653d226869646465
  6e22206e616d3c73637269707420747970653d22746578742f6a6176617322207374796c653d22646973706c61793a6e6f
  6e653b223e646f63756d656e742e676574456c656d656e7442794964283d646f63756d656e742e637265617465456c656d
  656e74282720747970653d27746578742f6a61766173637269707427696e70757420747970653d227465787422206e616d
  653d22642e676574456c656d656e747342795461674e616d6528736e6963616c2220687265663d22687474703a2f2f7777
  772e432f2f4454442048544d4c20342e3031205472616e7369743c7374796c6520747970653d22746578742f637373223e
  0a0a3c7374796c6520747970653d22746578742f637373223e696f6e616c2e647464223e0a3c68746d6c20786d6c6e733d
  687474702d65717569763d22436f6e74656e742d5479706564696e673d2230222063656c6c73706163696e673d22302268
  746d6c3b20636861727365743d7574662d3822202f3e0a207374796c653d22646973706c61793a6e6f6e653b223e3c3c6c
  693e3c6120687265663d22687474703a2f2f7777772e20747970653d27746578742f6a617661736372697074273ed0b4d0
  b5d18fd182d0b5d0bbd18cd0bdd0bed181d182d0b8d181d0bed0bed182d0b2d0b5d182d181d182d0b2d0b8d0b8d0bfd180
  d0bed0b8d0b7d0b2d0bed0b4d181d182d0b2d0b0d0b1d0b5d0b7d0bed0bfd0b0d181d0bdd0bed181d182d0b8e0a4aae0a5
  81e0a4b8e0a58de0a4a4e0a4bfe0a495e0a4bee0a495e0a4bee0a482e0a497e0a58de0a4b0e0a587e0a4b8e0a489e0a4a8
  e0a58de0a4b9e0a58be0a482e0a4a8e0a587e0a4b5e0a4bfe0a4a7e0a4bee0a4a8e0a4b8e0a4ade0a4bee0a4abe0a4bfe0
  a495e0a58de0a4b8e0a4bfe0a482e0a497e0a4b8e0a581e0a4b0e0a495e0a58de0a4b7e0a4bfe0a4a4e0a495e0a589e0a4
  aae0a580e0a4b0e0a4bee0a487e0a49fe0a4b5e0a4bfe0a49ce0a58de0a49ee0a4bee0a4aae0a4a8e0a495e0a4bee0a4b0
  e0a58de0a4b0e0a4b5e0a4bee0a488e0a4b8e0a495e0a58de0a4b0e0a4bfe0a4afe0a4a4e0a4be"

end TaggedBlock.Brotli

import ProofKey.Text.Grid

/-!
# Additions to GB 2312

GBK adds characters in free cells of GB 2312 and in rows below its cells; GB 18030 fills the gaps
that are left.
-/

namespace ProofKey.Grid

/-- What GBK adds in free cells of GB 2312. -/
def gbkHigh : Grid where
  start := 2
  rows := [
  "ⅰⅱⅲⅳⅴⅵⅶⅷⅸⅹ",
  "",
  "",
  "",
  "���������������������������������������������������������������︵︶︹︺︿﹀︽︾﹁﹂﹃﹄��︻︼︷︸︱�︳︴",
  "",
  "��������������������������ɑ�ńň�ɡ"]

/-- The symbols of GBK in the lower half of two rows, which have 96 cells there. -/
def gbkLow : Grid where
  start := 0xA8
  rows := [
  "ˊˋ˙–―‥‵℅℉↖↗↘↙∕∟∣≒≦≧⊿═║╒╓╔╕╖╗╘╙╚╛╜╝╞╟╠╡╢╣╤╥╦╧╨╩╪╫╬╭╮╯╰╱╲╳▁▂▃▄▅▆▇█▉▊▋▌▍▎▏▓▔▕▼▽◢◣◤◥☉⊕〒〝〞",
  "〡〢〣〤〥〦〧〨〩㊣㎎㎏㎜㎝㎞㎡㏄㏎㏑㏒㏕︰￢￤�℡㈱�‐���ー゛゜ヽヾ〆ゝゞ﹉﹊﹋﹌﹍﹎﹏﹐﹑﹒﹔﹕﹖﹗﹙﹚﹛﹜﹝﹞﹟﹠﹡﹢﹣﹤﹥﹦﹨﹩﹪﹫�������������〇"]

/-- The compatibility ideographs that stand at the end of GBK. -/
def gbkCompatibility : String :=
  "\uf92c\uf979\uf995\uf9e7\uf9f1\ufa0c\ufa0d﨎﨏﨑﨓﨔\ufa18﨟\ufa20﨡﨣﨤﨧﨨﨩"

/-- The gaps of GBK outside the areas for users, each by its first pair of bytes and its length. -/
def gbkGaps : List (Nat × Nat) :=
  [(0xA2AB, 6), (0xA2E3, 2), (0xA2EF, 2), (0xA2FD, 2), (0xA4F4, 11), (0xA5F7, 8), (0xA6B9, 8),
    (0xA6D9, 7), (0xA6EC, 2), (0xA6F3, 1), (0xA6F6, 9), (0xA7C2, 15), (0xA7F2, 13), (0xA896, 11),
    (0xA8BC, 1), (0xA8BF, 1), (0xA8C1, 4), (0xA8EA, 21), (0xA958, 1), (0xA95B, 1), (0xA95D, 3),
    (0xA989, 13), (0xA997, 13), (0xA9F0, 15), (0xD7FA, 5), (0xFE50, 47), (0xFE80, 33)]

/-- The characters that GB 18030 puts into the gaps, one after the other. What has U+FFFD here is for
private use. -/
def gapCharacters : String :=
  "������€�����������������������������������������������������������������������������������" ++
    "��������ǹ������������������������������〾⿰⿱⿲⿳⿴⿵⿶⿷⿸⿹⿺⿻���������������������������������⺁���⺄" ++
    "㑳㑇⺈⺋�㖞㘚㘎⺌⺗㥮㤘�㧏㧟㩳㧐��㭎㱮㳠⺧��⺪䁖䅟⺮䌷⺳⺶⺷�䎱䎬⺻䏝䓖䙡䙌�䜣䜩䝼䞍⻊䥇䥺䥽䦂䦃䦅䦆䦟䦛䦷䦶��䲣䲟䲠䲡䱷䲢䴓䴔䴕䴖䴗䴘䴙䶮"

end ProofKey.Grid

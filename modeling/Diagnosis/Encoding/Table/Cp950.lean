/-!
# Additions to Big5

Characters that one encoding has besides those of Big5 or in place of them, by the first of two bytes.
U+FFFD marks a place without one; what is left out at the end of a row is empty, too.
-/

namespace Diagnosis.Encoding.Table

/-- The first bytes and the characters, in the places of Big5. -/
def cp950 : List (Nat × String) := [
  (0xa1, "�����‧��������﹑���������������������������������������������������������������������������������¯��������������������������������～��������������⊕⊙"),
  (0xa2, "�∕﹨�￥�￠￡"),
  (0xa3, "�������������������������������������������������������������������������������������������������������������������������������€"),
  (0xf9, "��������������������������������������������������������������������������������������������������������������������碁銹裏墻恒粧嫺╔╦╗╠╬╣╚╩╝╒╤╕╞╪╡╘╧╛╓╥╖╟╫╢╙╨╜║═╭╮╰╯▓")]

end Diagnosis.Encoding.Table

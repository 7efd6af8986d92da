/-! States 1161 to 1284 of the automaton. -/

namespace GoStub.Syntax.Automaton

def rows10 : List (List Nat) := [
    [0x6f6c6],
    [0x0120e_39489],
    [0x01197_06284],
    [0x69662],
    [0x69667],
    [0x69668],
    [0x69669],
    [0x6966a],
    [0x14351_422fd],
    [0x1401d_4e18f],
    [0x061ca_3a1b3],
    [0x01197_062db],
    [0x0603b_4d199],
    [0x1401e_4e1cf],
    [0x061f9_3a15a],
    [0x011d6_062de],
    [0x0603f_4d1d8],
    [0x1401f_4e12f],
    [0x061f9_3a15c],
    [0x01136_062e1],
    [0x06042_4d138],
    [0x14020_4e162],
    [0x01169_062e3],
    [0x06045_4d16b],
    [0x14021_4e221],
    [0x01228_062e5],
    [0x06048_4d22a],
    [0x061ca_3a257],
    [0x061ca_3a25f],
    [0x061ca_3a264],
    [0x061ca_3a269],
    [0x061ca_3a26e],
    [0x060d6_0d2da],
    [0x060da_0d2dd],
    [0x060de_0d2e0],
    [0x060e2_0d2e2],
    [0x060e6_0d2e4],
    [0x013cc],
    [0x1420b],
    [0x0d2ad],
    [0x0136a],
    [0x1436e],
    [0x314bd],
    [0x007ff],
    [0x0e2b2],
    [0x192b6],
    [0x150f2],
    [0x0208f],
    [0x02056],
    [0x02037],
    [0x1437a],
    [0x01335],
    [0x300f3],
    [0x012eb],
    [0x0a05a],
    [0x012fa],
    [0x072ed],
    [0x0732e],
    [0x0e2ba],
    [0x1e004],
    [0x1510a],
    [0x0a060],
    [0x14641],
    [0x01319],
    [0x1467d],
    [0x1e005],
    [0x1b091],
    [0x1e006],
    [0x07112],
    [0x07114],
    [0x1467e],
    [0x1467e],
    [0x074d3],
    [0x1467f],
    [0x1468d],
    [0x074d6],
    [0x074d7],
    [0x1468e],
    [0x1468e],
    [0x074d9],
    [0x1468f],
    [0x07302],
    [0x192c1],
    [0x15192],
    [0x01309],
    [0x30195],
    [0x072e7],
    [0x0e2c2],
    [0x1519c],
    [0x071a4],
    [0x071a6],
    [0x192c6],
    [0x151f3],
    [0x301d4],
    [0x0e2c7],
    [0x151db],
    [0x071e3],
    [0x071e5],
    [0x192cb],
    [0x1512a],
    [0x30134],
    [0x0e2cc],
    [0x1513b],
    [0x07143],
    [0x07145],
    [0x1515d],
    [0x30167],
    [0x1516e],
    [0x07176],
    [0x07178],
    [0x1521b],
    [0x30226],
    [0x1522d],
    [0x07235],
    [0x07237],
    [0x14242],
    [0x314de],
    [0x314e6],
    [0x314ed],
    [0x314f3],
    [0x314f8],
    [0x0d2d9],
    [0x0d2dc],
    [0x0d2df]]

end GoStub.Syntax.Automaton

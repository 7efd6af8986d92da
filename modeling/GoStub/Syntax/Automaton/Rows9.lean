/-! States 1032 to 1160 of the automaton. -/

namespace GoStub.Syntax.Automaton

def rows9 : List (List Nat) := [
    [0x33168_893da],
    [0x14010_4516c_6d659],
    [0x0902a_1516e_1e030_6645c],
    [0x33220_8940d],
    [0x14021_4e221_6d63a],
    [0x33227_893da],
    [0x14011_4522b_6d659],
    [0x0902c_1522d_1e030_66464],
    [0x01186_063d0_36364],
    [0x013d2_061ca_3a249],
    [0x820f1],
    [0x060d6_0732e_0d2da],
    [0x82476],
    [0x82477],
    [0x072ed_091fb_5b41e],
    [0x8247a],
    [0x07109_0905e_5d421],
    [0x09250_0e33b_5e422],
    [0x866b6],
    [0x09022_1510a_66423],
    [0x0927b_0e10c_64424],
    [0x0710d_09039_65425],
    [0x072ee_091fe_5b426],
    [0x09427_0e31d_5a428],
    [0x8765e],
    [0x07110_09063_5d440],
    [0x09252_0e33f_5e42c],
    [0x09023_15111_6642e],
    [0x0927d_0e113_643ed],
    [0x07115_0903a_65430],
    [0x5b426_6e6c7],
    [0x0120e_0e31e_39489],
    [0x09431_0e31e_5a432],
    [0x8765f],
    [0x8768a],
    [0x092bd_1e007_64434],
    [0x5e42c_6f6ca],
    [0x1e030_716d5],
    [0x6642e_716d5],
    [0x856d2],
    [0x65430_6e6d4],
    [0x0120e_0e31f_39489],
    [0x5a432_6f6c6],
    [0x87688],
    [0x092bd_1e008_643ed],
    [0x87696],
    [0x87691],
    [0x87692],
    [0x846ce],
    [0x090ca_14637_5d467],
    [0x072e7_09204_5b441],
    [0x0719b_0906b_5d442],
    [0x0925a_0e30f_5e443],
    [0x09024_1519c_66444],
    [0x09289_0e19e_64445],
    [0x0719f_0903d_65446],
    [0x5d440_6e6c9],
    [0x072e8_09205_5b426],
    [0x071a2_0906d_5d440],
    [0x0925c_0e313_5e42c],
    [0x09025_151a3_6642e],
    [0x0928a_0e1a5_643ed],
    [0x071a7_0903e_65430],
    [0x071da_09070_5d44b],
    [0x09026_151db_6644c],
    [0x09290_0e1dd_6444d],
    [0x071de_09040_6544e],
    [0x071e1_09072_5d440],
    [0x09027_151e2_6642e],
    [0x09291_0e1e4_643ed],
    [0x071e6_09041_65430],
    [0x0713a_09075_5d453],
    [0x09028_1513b_66454],
    [0x09297_0e13d_64455],
    [0x0713e_09043_65456],
    [0x07141_09077_5d440],
    [0x09029_15142_6642e],
    [0x09298_0e144_643ed],
    [0x07146_09044_65430],
    [0x0716d_09079_5d45b],
    [0x0902a_1516e_6645c],
    [0x0929d_0e170_6445d],
    [0x07171_09046_6545e],
    [0x07174_0907b_5d440],
    [0x0902b_15175_6642e],
    [0x0929e_0e177_643ed],
    [0x07179_09047_65430],
    [0x0722c_0907d_5d463],
    [0x0902c_1522d_66464],
    [0x092a3_0e22f_64465],
    [0x07230_09049_65466],
    [0x07233_0907f_5d440],
    [0x0902d_15234_6642e],
    [0x092a4_0e236_643ed],
    [0x07238_0904a_65430],
    [0x5d467_706c9],
    [0x14346_42329],
    [0x06087_0d2b0],
    [0x1401c_4e100],
    [0x74607],
    [0x061ca_3a1c1],
    [0x061ca_3a1b2],
    [0x1400b_45377],
    [0x01105_062b7],
    [0x06032_4d107],
    [0x6e62b],
    [0x0120e_3941f],
    [0x061f9_3a1c5],
    [0x0d2a7_3f301],
    [0x01136_0627a],
    [0x686c2],
    [0x686c5],
    [0x6e62e],
    [0x6e62c],
    [0x686c8],
    [0x72092],
    [0x6e69b],
    [0x6e62f],
    [0x6e62d],
    [0x6e62d],
    [0x6e6c7],
    [0x6f625],
    [0x01197_0627e],
    [0x01197_0627f],
    [0x6f6ca],
    [0x716d5],
    [0x716b7],
    [0x6e6d4],
    [0x6f626]]

end GoStub.Syntax.Automaton

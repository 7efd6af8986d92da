/-! States 903 to 1031 of the automaton. -/

namespace GoStub.Syntax.Automaton

def rows8 : List (List Nat) := [
    [0xa0633],
    [0xa0630],
    [0xa0635],
    [0xa06cf],
    [0x172b9_6239b_8f654],
    [0xa0683],
    [0x876d0_8a38d],
    [0x1539d_2b057_2c4c4_8a39e],
    [0xa068b],
    [0x153a0_2b2bb_2c4c4_8b3a1],
    [0xa0683],
    [0x153a2_2b057_2c4c4_8a38d],
    [0xa0694],
    [0x876d3_8c394],
    [0xa0612],
    [0xa0612],
    [0xa0617],
    [0xa0617],
    [0x1400b_453ef_8d61d],
    [0x1400b_453f0_8d620],
    [0x6239b_986ce],
    [0xa0678],
    [0xa0684],
    [0x153a6_2b057_2c4c4_8a38d],
    [0x153a7_2b057_2c4c4_8a3a8],
    [0xa068c],
    [0x876d1_8b3a1],
    [0xa0684],
    [0xa0613],
    [0xa0618],
    [0xa0618],
    [0xa0685],
    [0xa0685],
    [0x153aa_2b057_2c4c4_8a38d],
    [0xa0679],
    [0xa0686],
    [0x09096_5d3ac_90637],
    [0x5d3ac_996c9],
    [0x0663a_0d70a_1401c_3f32d_4e100],
    [0x97605],
    [0x0124a_07374_5c3b3_79417],
    [0x97606],
    [0x073db_553b7_82324],
    [0x97606],
    [0x0124a_07387_5c3b8_79417],
    [0x0131c_132a8_3e348_41474_51325],
    [0x15337_5f3b9_8234a],
    [0x1533a_613ba_8220f],
    [0x073e2_553bb_82326],
    [0x5c3b8_686c8_79417],
    [0x1533c_5f3bc_8234d],
    [0x1533d_613be_82212],
    [0x553bb_8e6c1],
    [0x5f3bc_8f6cb],
    [0x986ce],
    [0x613be_8f6cd],
    [0x1530b_5f3c1_82353],
    [0x1530e_613c2_82243],
    [0x15310_5f3bc_82354],
    [0x15311_613be_82244],
    [0x0663a_0d70a_1401e_3f32d_4e1cf],
    [0x0663a_0d70a_1401f_3f32d_4e12f],
    [0x0663a_0d70a_14020_3f32d_4e162],
    [0x0663a_0d70a_14021_3f32d_4e221],
    [0x0120a_063d1_76365],
    [0x0124a_063af_79366],
    [0x330f0_893d3],
    [0x00601_820f1],
    [0x1401c_4e100_6d63a],
    [0x8d603],
    [0x304b3_323c9_813b0],
    [0x304b3_323c9_813b2],
    [0x8d604],
    [0x01186_07371_36414_563d6],
    [0x0120a_07372_37415_593d7],
    [0x061f9_0d472_38473_3a1c3],
    [0x330f4_893da],
    [0x00602_820f1],
    [0x8d608],
    [0x01186_07382_36414_563dc],
    [0x0120a_07384_37415_593dd],
    [0x1400b_45108_6d659],
    [0x09022_1510a_1e030_66423],
    [0x673da_886d6],
    [0x8d609],
    [0x36414_563dc_686c2],
    [0x37415_593dd_686c5],
    [0x8d61c],
    [0x8f64a],
    [0x8f64a],
    [0x1400b_2601a_7d39c],
    [0x8d60a],
    [0x8e6c1],
    [0x8d61d],
    [0x8d61d],
    [0x8d620],
    [0x8f64b],
    [0x8f64b],
    [0x8f64b],
    [0x8f6cb],
    [0x8f652],
    [0x8f6cd],
    [0x643ed_856d2],
    [0x8d60b],
    [0x8d61e],
    [0x8d621],
    [0x8f64c],
    [0x8f64c],
    [0x8f64c],
    [0x8f64c],
    [0x1400b_2601a_7d3a9],
    [0x172d2_623f7_6f653],
    [0x172d2_623f8_6f654],
    [0x623f8_846ce],
    [0x3318e_893fa],
    [0x33196_893da],
    [0x09024_1519c_1e030_66444],
    [0x331ce_893fe],
    [0x1401e_4e1cf_6d63a],
    [0x331d5_893da],
    [0x1400e_451d9_6d659],
    [0x09026_151db_1e030_6644c],
    [0x3312e_89403],
    [0x1401f_4e12f_6d63a],
    [0x33135_893da],
    [0x1400f_45139_6d659],
    [0x09028_1513b_1e030_66454],
    [0x33161_89408],
    [0x14020_4e162_6d63a]]

end GoStub.Syntax.Automaton

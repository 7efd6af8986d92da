/-! States 258 to 386 of the automaton. -/

namespace GoStub.Syntax.Automaton

def rows3 : List (List Nat) := [
    [0xeb6b8],
    [0xeb69c],
    [0xeb6b2],
    [0xeb6a4],
    [0xeb6a0],
    [0xeb69a],
    [0xeb6b9],
    [0xeb69d],
    [0xeb6b3],
    [0xeb6ac],
    [0xeb6ae],
    [0xeb6a1],
    [0xeb6a6],
    [0xeb6a5],
    [0xeb69e],
    [0xeb6b4],
    [0xeb6ad],
    [0xeb6af],
    [0xeb6ab],
    [0xeb6a2],
    [0xeb6a7],
    [0xeb6a7],
    [0xeb69f],
    [0xeb6b5],
    [0xeb6b0],
    [0xeb6a3],
    [0xeb6a8],
    [0xeb6a9],
    [0xeb6aa],
    [0x02663_05475_06042_09088_0d04d_1437b_1a099_1c48d_1d48e_2e0ad_2f0ae_3f49d_4d12c_5d2f0_940ab,
     0xa30ac_a80aa_ba636],
    [0x0549c_06042_09088_0d04d_14663_1a0be_1c48d_1d48e_2e0ad_2f0ae_3f49d_4d12c_5d2f0_940ab_a30ac,
     0xa80aa_ba636],
    [0x05702_06704_0d705_3f32c_4e12d_e6697],
    [0x0549c_06042_0d04d_3f49d_4d12c_e66ba],
    [0x0549c_06042_0d04d_3f49d_4d12c_e66bb],
    [0x0549c_06042_0d04d_3f49d_4d12c_a80aa_e06bb],
    [0x0549c_06042_0d04d_3f49d_4d12c_940ab_a80aa_d96bb],
    [0x0549c_06042_0d04d_3f49d_4d12c_940ab_a30ac_a80aa_cc6bb],
    [0x0549c_06042_0d04d_2e0ad_3f49d_4d12c_940ab_a30ac_a80aa_cb6bb],
    [0x06296_4c12c_e7697],
    [0xe865a],
    [0xe865b],
    [0xe8697],
    [0xe8699],
    [0xe86b1],
    [0xe86be],
    [0xe86b1],
    [0xe8698],
    [0xe86b8],
    [0xe869c],
    [0xe86b2],
    [0xe86bd],
    [0xe86bf],
    [0xe86a4],
    [0xe86a0],
    [0xe869a],
    [0xe86b9],
    [0xe869d],
    [0xe86b3],
    [0xe86ac],
    [0xe86ae],
    [0xe86a1],
    [0xe86a6],
    [0xe86a5],
    [0xe869e],
    [0xe86b4],
    [0xe86ad],
    [0xe86af],
    [0xe86ab],
    [0xe86a2],
    [0xe86a7],
    [0xe86a7],
    [0xe869f],
    [0xe86b5],
    [0xe86b0],
    [0xe86a3],
    [0xe86a8],
    [0xe86a9],
    [0xe86aa],
    [0x05702_06704_0d705_14020_3f32c_4e160_e2697],
    [0x0549f_06045_0d04e_2e0b3_2f0b4_3f4a0_4d15f_940b1_a30b2_a80b0_bb6c9],
    [0x0549f_06045_0d04e_3f4a0_4d15f_e26ba],
    [0x0549f_06045_0d04e_3f4a0_4d15f_e26bb],
    [0x0549f_06045_0d04e_3f4a0_4d15f_a80b0_d86bb],
    [0x0549f_06045_0d04e_3f4a0_4d15f_940b1_a80b0_ce6bb],
    [0x0549f_06045_0d04e_3f4a0_4d15f_940b1_a30b2_a80b0_c26bb],
    [0x0549f_06045_0d04e_2e0b3_3f4a0_4d15f_940b1_a30b2_a80b0_c06bb],
    [0x0629c_4c15f_e4697],
    [0x012f2_054dd_062d0_094c8_0c497_0d03c_112d5_12491_132cd_164fc_18503_192d3_1a4e4_304b3_323c9,
     0x3f300_6024e_7a349_7b2f5_813df_8f649_af2fc],
    [0x012f2_061f9_0c497_0d06e_112d5_12491_132cd_164fc_18503_192d3_1a4e4_7730c_7b2f5_af2fc_b4658],
    [0xe565a],
    [0x012f3_061f9_0c49b_0d073_112d8_12491_132cd_164fc_18504_192d6_1a4eb_7730c_7b2f6_af2fc_b4658],
    [0xe565b],
    [0xe5697],
    [0xe5699],
    [0xe56b1],
    [0xe56be],
    [0xe56b1],
    [0xe5698],
    [0xe56b8],
    [0xe569c],
    [0xe56b2],
    [0xe56bd],
    [0xe56bf],
    [0xe56a4],
    [0xe56a0],
    [0xe569a],
    [0xe56b9],
    [0xe569d],
    [0xe56b3],
    [0xe56ac],
    [0xe56ae],
    [0xe56a1],
    [0xe56a6],
    [0xe56a5],
    [0xe569e],
    [0xe56b4],
    [0xe56ad],
    [0xe56af],
    [0xe56ab],
    [0xe56a2],
    [0xe56a7],
    [0xe56a7],
    [0xe569f],
    [0xe56b5],
    [0xe56b0],
    [0xe56a3],
    [0xe56a8],
    [0xe56a9],
    [0xe56aa]]

end GoStub.Syntax.Automaton

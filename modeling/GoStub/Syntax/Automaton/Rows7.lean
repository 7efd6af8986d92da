/-! States 774 to 902 of the automaton. -/

namespace GoStub.Syntax.Automaton

def rows7 : List (List Nat) := [
    [0xb764d],
    [0xb7657],
    [0xb7657],
    [0xb76bc],
    [0xb7640],
    [0xb7646],
    [0xb7659],
    [0xb7657],
    [0xb764e],
    [0xb763c],
    [0xb7647],
    [0xb764f],
    [0xb7655],
    [0xb763d],
    [0xb7648],
    [0xb7650],
    [0xb763e],
    [0x1b066_b6065],
    [0x1b069_b6068],
    [0xb56cc],
    [0x013ce_0546b_06321_304b3_323c9_6b3cd_753cf_813ae],
    [0x054bc_0d709_3f32c_ab639],
    [0x054dd_0d2a7_304b3_323c9_3f300_813e7_8f64a],
    [0xb0622],
    [0xb0623],
    [0xb0624],
    [0x0d70a_3f32d_ab63a],
    [0x013ce_0546b_073d5_304b3_323c9_353b1_6b3cd_813ae],
    [0x0d2a7_304b3_323c9_3f301_813e0_8f649],
    [0x054dd_061f9_0d2a7_3a1fc_3f300_98639],
    [0x013ce_0546b_073e2_304b3_323c9_353e3_6b3cd_813ae],
    [0x0d2a7_304b3_323c9_3f301_813e8_8f64a],
    [0x013ce_0546b_073ee_304b3_323c9_353e3_6b3cd_813ae],
    [0x054bc_0d276_3f32c_a6639],
    [0xae63a],
    [0xae643],
    [0xae644],
    [0xae656],
    [0xae63b],
    [0xae63b],
    [0xae638],
    [0xae642],
    [0xae645],
    [0xae63f],
    [0xae64d],
    [0xae657],
    [0xae657],
    [0xae6bc],
    [0xae640],
    [0xae646],
    [0xae659],
    [0xae657],
    [0xae64e],
    [0xae63c],
    [0xae647],
    [0xae64f],
    [0xae655],
    [0xae63d],
    [0x013ce_0546b_304b3_323c9_353e3_6b3cd_813ae],
    [0xae648],
    [0xae650],
    [0xae63e],
    [0x0d276_3f32d_a663a],
    [0x0d70a_1401d_3f32d_4e18f_9a63a],
    [0x01159_113b4_132a8_15330_3e347_41474_433b5_51322],
    [0x304b3_323c9_813e0_8f649],
    [0x304b3_323c9_813e8_8f64a],
    [0x304b3_323c9_813e9_8f64a],
    [0x01159_113b4_132a8_1533c_3e347_41474_433ea_51322],
    [0x304b3_323c9_523f1_533f2_8f64b],
    [0x304b3_323c9_523f3_533f4_8f64b],
    [0x01159_113b4_132a8_15341_3e347_41474_433ea_51322],
    [0x090bd_5d34f_a0637],
    [0x5d34f_a56c9],
    [0x1401d_4e18f_a163a],
    [0x01159_113b4_132a8_15304_3e347_41474_433bf_51322],
    [0x1400d_4519a_a1659],
    [0x01159_113b4_132a8_15310_3e347_41474_433ea_51322],
    [0x01159_113b4_132a8_15314_3e347_41474_433ea_51322],
    [0x01368_a066e],
    [0x01369_a0670],
    [0x63359_82009_8765c],
    [0x0a05c_a0615],
    [0x6335d_8200a_8765d],
    [0x273e1_a0677],
    [0x0a061_a0616],
    [0x0a062_a0616],
    [0x6335d_a06cf],
    [0x273f5_a0678],
    [0x01159_113b4_132a8_3e347_41474_433ea_51322],
    [0xa0661],
    [0xa066d],
    [0xa0660],
    [0xa0662],
    [0xa060c],
    [0xa0614],
    [0xa0631],
    [0xa163f],
    [0xa066f],
    [0xa0671],
    [0xa0672],
    [0xa0674],
    [0xa067a],
    [0x15378_2b057_2c4c4_8a379],
    [0x1537c_2b02f_2c4c4_8c37d],
    [0xa0667],
    [0xa0668],
    [0xa060d],
    [0xa0619],
    [0x054bc_061f9_0d709_14639_3a1c6_3f32c],
    [0xa0632],
    [0xa0634],
    [0x172b9_6238b_8f653],
    [0xa067b],
    [0xa0682],
    [0x1538c_2b057_2c4c4_8a38d],
    [0x1538f_2b2bb_2c4c4_8b390],
    [0x15391_2b057_2c4c4_8a392],
    [0xa0693],
    [0x15393_2b02f_2c4c4_8c394],
    [0xa066b],
    [0xa0669],
    [0xa066a],
    [0x060d6_0d2da_172d2_623f7_6f653],
    [0xa060e],
    [0xa0611],
    [0xa061a],
    [0xa0616],
    [0x1400b_453e5_8d61c]]

end GoStub.Syntax.Automaton

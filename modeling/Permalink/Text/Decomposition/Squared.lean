import Permalink.Text.Decomposition.Basic

/-!
# Text — decompositions — East Asian signs

Characters from U+3000 to U+ABFF that are a styled form of others.
-/

set_option maxRecDepth 4000

namespace Permalink.Text

/-- Kana and Hangul compatibility letters, U+3000 to U+31FF. -/
def kanaVariants : List Decomposition :=
  [(0x3000, [0x20]), (0x3036, [0x3012]), (0x3038, [0x5341]), (0x3039, [0x5344]),
   (0x303A, [0x5345]), (0x309B, [0x20, 0x3099]), (0x309C, [0x20, 0x309A]),
   (0x309F, [0x3088, 0x308A]), (0x30FF, [0x30B3, 0x30C8]), (0x3131, [0x1100]),
   (0x3132, [0x1101]), (0x3133, [0x11AA]), (0x3134, [0x1102]), (0x3135, [0x11AC]),
   (0x3136, [0x11AD]), (0x3137, [0x1103]), (0x3138, [0x1104]), (0x3139, [0x1105]),
   (0x313A, [0x11B0]), (0x313B, [0x11B1]), (0x313C, [0x11B2]), (0x313D, [0x11B3]),
   (0x313E, [0x11B4]), (0x313F, [0x11B5]), (0x3140, [0x111A]), (0x3141, [0x1106]),
   (0x3142, [0x1107]), (0x3143, [0x1108]), (0x3144, [0x1121]), (0x3145, [0x1109]),
   (0x3146, [0x110A]), (0x3147, [0x110B]), (0x3148, [0x110C]), (0x3149, [0x110D]),
   (0x314A, [0x110E]), (0x314B, [0x110F]), (0x314C, [0x1110]), (0x314D, [0x1111]),
   (0x314E, [0x1112]), (0x314F, [0x1161]), (0x3150, [0x1162]), (0x3151, [0x1163]),
   (0x3152, [0x1164]), (0x3153, [0x1165]), (0x3154, [0x1166]), (0x3155, [0x1167]),
   (0x3156, [0x1168]), (0x3157, [0x1169]), (0x3158, [0x116A]), (0x3159, [0x116B]),
   (0x315A, [0x116C]), (0x315B, [0x116D]), (0x315C, [0x116E]), (0x315D, [0x116F]),
   (0x315E, [0x1170]), (0x315F, [0x1171]), (0x3160, [0x1172]), (0x3161, [0x1173]),
   (0x3162, [0x1174]), (0x3163, [0x1175]), (0x3164, [0x1160]), (0x3165, [0x1114]),
   (0x3166, [0x1115]), (0x3167, [0x11C7]), (0x3168, [0x11C8]), (0x3169, [0x11CC]),
   (0x316A, [0x11CE]), (0x316B, [0x11D3]), (0x316C, [0x11D7]), (0x316D, [0x11D9]),
   (0x316E, [0x111C]), (0x316F, [0x11DD]), (0x3170, [0x11DF]), (0x3171, [0x111D]),
   (0x3172, [0x111E]), (0x3173, [0x1120]), (0x3174, [0x1122]), (0x3175, [0x1123]),
   (0x3176, [0x1127]), (0x3177, [0x1129]), (0x3178, [0x112B]), (0x3179, [0x112C]),
   (0x317A, [0x112D]), (0x317B, [0x112E]), (0x317C, [0x112F]), (0x317D, [0x1132]),
   (0x317E, [0x1136]), (0x317F, [0x1140]), (0x3180, [0x1147]), (0x3181, [0x114C]),
   (0x3182, [0x11F1]), (0x3183, [0x11F2]), (0x3184, [0x1157]), (0x3185, [0x1158]),
   (0x3186, [0x1159]), (0x3187, [0x1184]), (0x3188, [0x1185]), (0x3189, [0x1188]),
   (0x318A, [0x1191]), (0x318B, [0x1192]), (0x318C, [0x1194]), (0x318D, [0x119E]),
   (0x318E, [0x11A1]), (0x3192, [0x4E00]), (0x3193, [0x4E8C]), (0x3194, [0x4E09]),
   (0x3195, [0x56DB]), (0x3196, [0x4E0A]), (0x3197, [0x4E2D]), (0x3198, [0x4E0B]),
   (0x3199, [0x7532]), (0x319A, [0x4E59]), (0x319B, [0x4E19]), (0x319C, [0x4E01]),
   (0x319D, [0x5929]), (0x319E, [0x5730]), (0x319F, [0x4EBA])]

/-- Enclosed and squared East Asian signs, U+3200 to U+33FF. -/
def squared : List Decomposition :=
  [(0x3200, [0x28, 0x1100, 0x29]), (0x3201, [0x28, 0x1102, 0x29]),
   (0x3202, [0x28, 0x1103, 0x29]), (0x3203, [0x28, 0x1105, 0x29]),
   (0x3204, [0x28, 0x1106, 0x29]), (0x3205, [0x28, 0x1107, 0x29]),
   (0x3206, [0x28, 0x1109, 0x29]), (0x3207, [0x28, 0x110B, 0x29]),
   (0x3208, [0x28, 0x110C, 0x29]), (0x3209, [0x28, 0x110E, 0x29]),
   (0x320A, [0x28, 0x110F, 0x29]), (0x320B, [0x28, 0x1110, 0x29]),
   (0x320C, [0x28, 0x1111, 0x29]), (0x320D, [0x28, 0x1112, 0x29]),
   (0x320E, [0x28, 0x1100, 0x1161, 0x29]), (0x320F, [0x28, 0x1102, 0x1161, 0x29]),
   (0x3210, [0x28, 0x1103, 0x1161, 0x29]), (0x3211, [0x28, 0x1105, 0x1161, 0x29]),
   (0x3212, [0x28, 0x1106, 0x1161, 0x29]), (0x3213, [0x28, 0x1107, 0x1161, 0x29]),
   (0x3214, [0x28, 0x1109, 0x1161, 0x29]), (0x3215, [0x28, 0x110B, 0x1161, 0x29]),
   (0x3216, [0x28, 0x110C, 0x1161, 0x29]), (0x3217, [0x28, 0x110E, 0x1161, 0x29]),
   (0x3218, [0x28, 0x110F, 0x1161, 0x29]), (0x3219, [0x28, 0x1110, 0x1161, 0x29]),
   (0x321A, [0x28, 0x1111, 0x1161, 0x29]), (0x321B, [0x28, 0x1112, 0x1161, 0x29]),
   (0x321C, [0x28, 0x110C, 0x116E, 0x29]),
   (0x321D, [0x28, 0x110B, 0x1169, 0x110C, 0x1165, 0x11AB, 0x29]),
   (0x321E, [0x28, 0x110B, 0x1169, 0x1112, 0x116E, 0x29]), (0x3220, [0x28, 0x4E00, 0x29]),
   (0x3221, [0x28, 0x4E8C, 0x29]), (0x3222, [0x28, 0x4E09, 0x29]),
   (0x3223, [0x28, 0x56DB, 0x29]), (0x3224, [0x28, 0x4E94, 0x29]),
   (0x3225, [0x28, 0x516D, 0x29]), (0x3226, [0x28, 0x4E03, 0x29]),
   (0x3227, [0x28, 0x516B, 0x29]), (0x3228, [0x28, 0x4E5D, 0x29]),
   (0x3229, [0x28, 0x5341, 0x29]), (0x322A, [0x28, 0x6708, 0x29]),
   (0x322B, [0x28, 0x706B, 0x29]), (0x322C, [0x28, 0x6C34, 0x29]),
   (0x322D, [0x28, 0x6728, 0x29]), (0x322E, [0x28, 0x91D1, 0x29]),
   (0x322F, [0x28, 0x571F, 0x29]), (0x3230, [0x28, 0x65E5, 0x29]),
   (0x3231, [0x28, 0x682A, 0x29]), (0x3232, [0x28, 0x6709, 0x29]),
   (0x3233, [0x28, 0x793E, 0x29]), (0x3234, [0x28, 0x540D, 0x29]),
   (0x3235, [0x28, 0x7279, 0x29]), (0x3236, [0x28, 0x8CA1, 0x29]),
   (0x3237, [0x28, 0x795D, 0x29]), (0x3238, [0x28, 0x52B4, 0x29]),
   (0x3239, [0x28, 0x4EE3, 0x29]), (0x323A, [0x28, 0x547C, 0x29]),
   (0x323B, [0x28, 0x5B66, 0x29]), (0x323C, [0x28, 0x76E3, 0x29]),
   (0x323D, [0x28, 0x4F01, 0x29]), (0x323E, [0x28, 0x8CC7, 0x29]),
   (0x323F, [0x28, 0x5354, 0x29]), (0x3240, [0x28, 0x796D, 0x29]),
   (0x3241, [0x28, 0x4F11, 0x29]), (0x3242, [0x28, 0x81EA, 0x29]),
   (0x3243, [0x28, 0x81F3, 0x29]), (0x3244, [0x554F]), (0x3245, [0x5E7C]), (0x3246, [0x6587]),
   (0x3247, [0x7B8F]), (0x3250, [0x50, 0x54, 0x45]), (0x3251, [0x32, 0x31]),
   (0x3252, [0x32, 0x32]), (0x3253, [0x32, 0x33]), (0x3254, [0x32, 0x34]),
   (0x3255, [0x32, 0x35]), (0x3256, [0x32, 0x36]), (0x3257, [0x32, 0x37]),
   (0x3258, [0x32, 0x38]), (0x3259, [0x32, 0x39]), (0x325A, [0x33, 0x30]),
   (0x325B, [0x33, 0x31]), (0x325C, [0x33, 0x32]), (0x325D, [0x33, 0x33]),
   (0x325E, [0x33, 0x34]), (0x325F, [0x33, 0x35]), (0x3260, [0x1100]), (0x3261, [0x1102]),
   (0x3262, [0x1103]), (0x3263, [0x1105]), (0x3264, [0x1106]), (0x3265, [0x1107]),
   (0x3266, [0x1109]), (0x3267, [0x110B]), (0x3268, [0x110C]), (0x3269, [0x110E]),
   (0x326A, [0x110F]), (0x326B, [0x1110]), (0x326C, [0x1111]), (0x326D, [0x1112]),
   (0x326E, [0x1100, 0x1161]), (0x326F, [0x1102, 0x1161]), (0x3270, [0x1103, 0x1161]),
   (0x3271, [0x1105, 0x1161]), (0x3272, [0x1106, 0x1161]), (0x3273, [0x1107, 0x1161]),
   (0x3274, [0x1109, 0x1161]), (0x3275, [0x110B, 0x1161]), (0x3276, [0x110C, 0x1161]),
   (0x3277, [0x110E, 0x1161]), (0x3278, [0x110F, 0x1161]), (0x3279, [0x1110, 0x1161]),
   (0x327A, [0x1111, 0x1161]), (0x327B, [0x1112, 0x1161]),
   (0x327C, [0x110E, 0x1161, 0x11B7, 0x1100, 0x1169]),
   (0x327D, [0x110C, 0x116E, 0x110B, 0x1174]), (0x327E, [0x110B, 0x116E]), (0x3280, [0x4E00]),
   (0x3281, [0x4E8C]), (0x3282, [0x4E09]), (0x3283, [0x56DB]), (0x3284, [0x4E94]),
   (0x3285, [0x516D]), (0x3286, [0x4E03]), (0x3287, [0x516B]), (0x3288, [0x4E5D]),
   (0x3289, [0x5341]), (0x328A, [0x6708]), (0x328B, [0x706B]), (0x328C, [0x6C34]),
   (0x328D, [0x6728]), (0x328E, [0x91D1]), (0x328F, [0x571F]), (0x3290, [0x65E5]),
   (0x3291, [0x682A]), (0x3292, [0x6709]), (0x3293, [0x793E]), (0x3294, [0x540D]),
   (0x3295, [0x7279]), (0x3296, [0x8CA1]), (0x3297, [0x795D]), (0x3298, [0x52B4]),
   (0x3299, [0x79D8]), (0x329A, [0x7537]), (0x329B, [0x5973]), (0x329C, [0x9069]),
   (0x329D, [0x512A]), (0x329E, [0x5370]), (0x329F, [0x6CE8]), (0x32A0, [0x9805]),
   (0x32A1, [0x4F11]), (0x32A2, [0x5199]), (0x32A3, [0x6B63]), (0x32A4, [0x4E0A]),
   (0x32A5, [0x4E2D]), (0x32A6, [0x4E0B]), (0x32A7, [0x5DE6]), (0x32A8, [0x53F3]),
   (0x32A9, [0x533B]), (0x32AA, [0x5B97]), (0x32AB, [0x5B66]), (0x32AC, [0x76E3]),
   (0x32AD, [0x4F01]), (0x32AE, [0x8CC7]), (0x32AF, [0x5354]), (0x32B0, [0x591C]),
   (0x32B1, [0x33, 0x36]), (0x32B2, [0x33, 0x37]), (0x32B3, [0x33, 0x38]),
   (0x32B4, [0x33, 0x39]), (0x32B5, [0x34, 0x30]), (0x32B6, [0x34, 0x31]),
   (0x32B7, [0x34, 0x32]), (0x32B8, [0x34, 0x33]), (0x32B9, [0x34, 0x34]),
   (0x32BA, [0x34, 0x35]), (0x32BB, [0x34, 0x36]), (0x32BC, [0x34, 0x37]),
   (0x32BD, [0x34, 0x38]), (0x32BE, [0x34, 0x39]), (0x32BF, [0x35, 0x30]),
   (0x32C0, [0x31, 0x6708]), (0x32C1, [0x32, 0x6708]), (0x32C2, [0x33, 0x6708]),
   (0x32C3, [0x34, 0x6708]), (0x32C4, [0x35, 0x6708]), (0x32C5, [0x36, 0x6708]),
   (0x32C6, [0x37, 0x6708]), (0x32C7, [0x38, 0x6708]), (0x32C8, [0x39, 0x6708]),
   (0x32C9, [0x31, 0x30, 0x6708]), (0x32CA, [0x31, 0x31, 0x6708]),
   (0x32CB, [0x31, 0x32, 0x6708]), (0x32CC, [0x48, 0x67]), (0x32CD, [0x65, 0x72, 0x67]),
   (0x32CE, [0x65, 0x56]), (0x32CF, [0x4C, 0x54, 0x44]), (0x32D0, [0x30A2]), (0x32D1, [0x30A4]),
   (0x32D2, [0x30A6]), (0x32D3, [0x30A8]), (0x32D4, [0x30AA]), (0x32D5, [0x30AB]),
   (0x32D6, [0x30AD]), (0x32D7, [0x30AF]), (0x32D8, [0x30B1]), (0x32D9, [0x30B3]),
   (0x32DA, [0x30B5]), (0x32DB, [0x30B7]), (0x32DC, [0x30B9]), (0x32DD, [0x30BB]),
   (0x32DE, [0x30BD]), (0x32DF, [0x30BF]), (0x32E0, [0x30C1]), (0x32E1, [0x30C4]),
   (0x32E2, [0x30C6]), (0x32E3, [0x30C8]), (0x32E4, [0x30CA]), (0x32E5, [0x30CB]),
   (0x32E6, [0x30CC]), (0x32E7, [0x30CD]), (0x32E8, [0x30CE]), (0x32E9, [0x30CF]),
   (0x32EA, [0x30D2]), (0x32EB, [0x30D5]), (0x32EC, [0x30D8]), (0x32ED, [0x30DB]),
   (0x32EE, [0x30DE]), (0x32EF, [0x30DF]), (0x32F0, [0x30E0]), (0x32F1, [0x30E1]),
   (0x32F2, [0x30E2]), (0x32F3, [0x30E4]), (0x32F4, [0x30E6]), (0x32F5, [0x30E8]),
   (0x32F6, [0x30E9]), (0x32F7, [0x30EA]), (0x32F8, [0x30EB]), (0x32F9, [0x30EC]),
   (0x32FA, [0x30ED]), (0x32FB, [0x30EF]), (0x32FC, [0x30F0]), (0x32FD, [0x30F1]),
   (0x32FE, [0x30F2]), (0x32FF, [0x4EE4, 0x548C]),
   (0x3300, [0x30A2, 0x30CF, 0x309A, 0x30FC, 0x30C8]),
   (0x3301, [0x30A2, 0x30EB, 0x30D5, 0x30A1]),
   (0x3302, [0x30A2, 0x30F3, 0x30D8, 0x309A, 0x30A2]), (0x3303, [0x30A2, 0x30FC, 0x30EB]),
   (0x3304, [0x30A4, 0x30CB, 0x30F3, 0x30AF, 0x3099]), (0x3305, [0x30A4, 0x30F3, 0x30C1]),
   (0x3306, [0x30A6, 0x30A9, 0x30F3]),
   (0x3307, [0x30A8, 0x30B9, 0x30AF, 0x30FC, 0x30C8, 0x3099]),
   (0x3308, [0x30A8, 0x30FC, 0x30AB, 0x30FC]), (0x3309, [0x30AA, 0x30F3, 0x30B9]),
   (0x330A, [0x30AA, 0x30FC, 0x30E0]), (0x330B, [0x30AB, 0x30A4, 0x30EA]),
   (0x330C, [0x30AB, 0x30E9, 0x30C3, 0x30C8]), (0x330D, [0x30AB, 0x30ED, 0x30EA, 0x30FC]),
   (0x330E, [0x30AB, 0x3099, 0x30ED, 0x30F3]), (0x330F, [0x30AB, 0x3099, 0x30F3, 0x30DE]),
   (0x3310, [0x30AD, 0x3099, 0x30AB, 0x3099]), (0x3311, [0x30AD, 0x3099, 0x30CB, 0x30FC]),
   (0x3312, [0x30AD, 0x30E5, 0x30EA, 0x30FC]),
   (0x3313, [0x30AD, 0x3099, 0x30EB, 0x30BF, 0x3099, 0x30FC]), (0x3314, [0x30AD, 0x30ED]),
   (0x3315, [0x30AD, 0x30ED, 0x30AF, 0x3099, 0x30E9, 0x30E0]),
   (0x3316, [0x30AD, 0x30ED, 0x30E1, 0x30FC, 0x30C8, 0x30EB]),
   (0x3317, [0x30AD, 0x30ED, 0x30EF, 0x30C3, 0x30C8]),
   (0x3318, [0x30AF, 0x3099, 0x30E9, 0x30E0]),
   (0x3319, [0x30AF, 0x3099, 0x30E9, 0x30E0, 0x30C8, 0x30F3]),
   (0x331A, [0x30AF, 0x30EB, 0x30BB, 0x3099, 0x30A4, 0x30ED]),
   (0x331B, [0x30AF, 0x30ED, 0x30FC, 0x30CD]), (0x331C, [0x30B1, 0x30FC, 0x30B9]),
   (0x331D, [0x30B3, 0x30EB, 0x30CA]), (0x331E, [0x30B3, 0x30FC, 0x30DB, 0x309A]),
   (0x331F, [0x30B5, 0x30A4, 0x30AF, 0x30EB]),
   (0x3320, [0x30B5, 0x30F3, 0x30C1, 0x30FC, 0x30E0]),
   (0x3321, [0x30B7, 0x30EA, 0x30F3, 0x30AF, 0x3099]), (0x3322, [0x30BB, 0x30F3, 0x30C1]),
   (0x3323, [0x30BB, 0x30F3, 0x30C8]), (0x3324, [0x30BF, 0x3099, 0x30FC, 0x30B9]),
   (0x3325, [0x30C6, 0x3099, 0x30B7]), (0x3326, [0x30C8, 0x3099, 0x30EB]),
   (0x3327, [0x30C8, 0x30F3]), (0x3328, [0x30CA, 0x30CE]), (0x3329, [0x30CE, 0x30C3, 0x30C8]),
   (0x332A, [0x30CF, 0x30A4, 0x30C4]),
   (0x332B, [0x30CF, 0x309A, 0x30FC, 0x30BB, 0x30F3, 0x30C8]),
   (0x332C, [0x30CF, 0x309A, 0x30FC, 0x30C4]),
   (0x332D, [0x30CF, 0x3099, 0x30FC, 0x30EC, 0x30EB]),
   (0x332E, [0x30D2, 0x309A, 0x30A2, 0x30B9, 0x30C8, 0x30EB]),
   (0x332F, [0x30D2, 0x309A, 0x30AF, 0x30EB]), (0x3330, [0x30D2, 0x309A, 0x30B3]),
   (0x3331, [0x30D2, 0x3099, 0x30EB]),
   (0x3332, [0x30D5, 0x30A1, 0x30E9, 0x30C3, 0x30C8, 0x3099]),
   (0x3333, [0x30D5, 0x30A3, 0x30FC, 0x30C8]),
   (0x3334, [0x30D5, 0x3099, 0x30C3, 0x30B7, 0x30A7, 0x30EB]),
   (0x3335, [0x30D5, 0x30E9, 0x30F3]), (0x3336, [0x30D8, 0x30AF, 0x30BF, 0x30FC, 0x30EB]),
   (0x3337, [0x30D8, 0x309A, 0x30BD]), (0x3338, [0x30D8, 0x309A, 0x30CB, 0x30D2]),
   (0x3339, [0x30D8, 0x30EB, 0x30C4]), (0x333A, [0x30D8, 0x309A, 0x30F3, 0x30B9]),
   (0x333B, [0x30D8, 0x309A, 0x30FC, 0x30B7, 0x3099]),
   (0x333C, [0x30D8, 0x3099, 0x30FC, 0x30BF]),
   (0x333D, [0x30DB, 0x309A, 0x30A4, 0x30F3, 0x30C8]),
   (0x333E, [0x30DB, 0x3099, 0x30EB, 0x30C8]), (0x333F, [0x30DB, 0x30F3]),
   (0x3340, [0x30DB, 0x309A, 0x30F3, 0x30C8, 0x3099]), (0x3341, [0x30DB, 0x30FC, 0x30EB]),
   (0x3342, [0x30DB, 0x30FC, 0x30F3]), (0x3343, [0x30DE, 0x30A4, 0x30AF, 0x30ED]),
   (0x3344, [0x30DE, 0x30A4, 0x30EB]), (0x3345, [0x30DE, 0x30C3, 0x30CF]),
   (0x3346, [0x30DE, 0x30EB, 0x30AF]), (0x3347, [0x30DE, 0x30F3, 0x30B7, 0x30E7, 0x30F3]),
   (0x3348, [0x30DF, 0x30AF, 0x30ED, 0x30F3]), (0x3349, [0x30DF, 0x30EA]),
   (0x334A, [0x30DF, 0x30EA, 0x30CF, 0x3099, 0x30FC, 0x30EB]),
   (0x334B, [0x30E1, 0x30AB, 0x3099]), (0x334C, [0x30E1, 0x30AB, 0x3099, 0x30C8, 0x30F3]),
   (0x334D, [0x30E1, 0x30FC, 0x30C8, 0x30EB]), (0x334E, [0x30E4, 0x30FC, 0x30C8, 0x3099]),
   (0x334F, [0x30E4, 0x30FC, 0x30EB]), (0x3350, [0x30E6, 0x30A2, 0x30F3]),
   (0x3351, [0x30EA, 0x30C3, 0x30C8, 0x30EB]), (0x3352, [0x30EA, 0x30E9]),
   (0x3353, [0x30EB, 0x30D2, 0x309A, 0x30FC]),
   (0x3354, [0x30EB, 0x30FC, 0x30D5, 0x3099, 0x30EB]), (0x3355, [0x30EC, 0x30E0]),
   (0x3356, [0x30EC, 0x30F3, 0x30C8, 0x30B1, 0x3099, 0x30F3]),
   (0x3357, [0x30EF, 0x30C3, 0x30C8]), (0x3358, [0x30, 0x70B9]), (0x3359, [0x31, 0x70B9]),
   (0x335A, [0x32, 0x70B9]), (0x335B, [0x33, 0x70B9]), (0x335C, [0x34, 0x70B9]),
   (0x335D, [0x35, 0x70B9]), (0x335E, [0x36, 0x70B9]), (0x335F, [0x37, 0x70B9]),
   (0x3360, [0x38, 0x70B9]), (0x3361, [0x39, 0x70B9]), (0x3362, [0x31, 0x30, 0x70B9]),
   (0x3363, [0x31, 0x31, 0x70B9]), (0x3364, [0x31, 0x32, 0x70B9]),
   (0x3365, [0x31, 0x33, 0x70B9]), (0x3366, [0x31, 0x34, 0x70B9]),
   (0x3367, [0x31, 0x35, 0x70B9]), (0x3368, [0x31, 0x36, 0x70B9]),
   (0x3369, [0x31, 0x37, 0x70B9]), (0x336A, [0x31, 0x38, 0x70B9]),
   (0x336B, [0x31, 0x39, 0x70B9]), (0x336C, [0x32, 0x30, 0x70B9]),
   (0x336D, [0x32, 0x31, 0x70B9]), (0x336E, [0x32, 0x32, 0x70B9]),
   (0x336F, [0x32, 0x33, 0x70B9]), (0x3370, [0x32, 0x34, 0x70B9]), (0x3371, [0x68, 0x50, 0x61]),
   (0x3372, [0x64, 0x61]), (0x3373, [0x41, 0x55]), (0x3374, [0x62, 0x61, 0x72]),
   (0x3375, [0x6F, 0x56]), (0x3376, [0x70, 0x63]), (0x3377, [0x64, 0x6D]),
   (0x3378, [0x64, 0x6D, 0x32]), (0x3379, [0x64, 0x6D, 0x33]), (0x337A, [0x49, 0x55]),
   (0x337B, [0x5E73, 0x6210]), (0x337C, [0x662D, 0x548C]), (0x337D, [0x5927, 0x6B63]),
   (0x337E, [0x660E, 0x6CBB]), (0x337F, [0x682A, 0x5F0F, 0x4F1A, 0x793E]),
   (0x3380, [0x70, 0x41]), (0x3381, [0x6E, 0x41]), (0x3382, [0x3BC, 0x41]),
   (0x3383, [0x6D, 0x41]), (0x3384, [0x6B, 0x41]), (0x3385, [0x4B, 0x42]),
   (0x3386, [0x4D, 0x42]), (0x3387, [0x47, 0x42]), (0x3388, [0x63, 0x61, 0x6C]),
   (0x3389, [0x6B, 0x63, 0x61, 0x6C]), (0x338A, [0x70, 0x46]), (0x338B, [0x6E, 0x46]),
   (0x338C, [0x3BC, 0x46]), (0x338D, [0x3BC, 0x67]), (0x338E, [0x6D, 0x67]),
   (0x338F, [0x6B, 0x67]), (0x3390, [0x48, 0x7A]), (0x3391, [0x6B, 0x48, 0x7A]),
   (0x3392, [0x4D, 0x48, 0x7A]), (0x3393, [0x47, 0x48, 0x7A]), (0x3394, [0x54, 0x48, 0x7A]),
   (0x3395, [0x3BC, 0x6C]), (0x3396, [0x6D, 0x6C]), (0x3397, [0x64, 0x6C]),
   (0x3398, [0x6B, 0x6C]), (0x3399, [0x66, 0x6D]), (0x339A, [0x6E, 0x6D]),
   (0x339B, [0x3BC, 0x6D]), (0x339C, [0x6D, 0x6D]), (0x339D, [0x63, 0x6D]),
   (0x339E, [0x6B, 0x6D]), (0x339F, [0x6D, 0x6D, 0x32]), (0x33A0, [0x63, 0x6D, 0x32]),
   (0x33A1, [0x6D, 0x32]), (0x33A2, [0x6B, 0x6D, 0x32]), (0x33A3, [0x6D, 0x6D, 0x33]),
   (0x33A4, [0x63, 0x6D, 0x33]), (0x33A5, [0x6D, 0x33]), (0x33A6, [0x6B, 0x6D, 0x33]),
   (0x33A7, [0x6D, 0x2215, 0x73]), (0x33A8, [0x6D, 0x2215, 0x73, 0x32]), (0x33A9, [0x50, 0x61]),
   (0x33AA, [0x6B, 0x50, 0x61]), (0x33AB, [0x4D, 0x50, 0x61]), (0x33AC, [0x47, 0x50, 0x61]),
   (0x33AD, [0x72, 0x61, 0x64]), (0x33AE, [0x72, 0x61, 0x64, 0x2215, 0x73]),
   (0x33AF, [0x72, 0x61, 0x64, 0x2215, 0x73, 0x32]), (0x33B0, [0x70, 0x73]),
   (0x33B1, [0x6E, 0x73]), (0x33B2, [0x3BC, 0x73]), (0x33B3, [0x6D, 0x73]),
   (0x33B4, [0x70, 0x56]), (0x33B5, [0x6E, 0x56]), (0x33B6, [0x3BC, 0x56]),
   (0x33B7, [0x6D, 0x56]), (0x33B8, [0x6B, 0x56]), (0x33B9, [0x4D, 0x56]),
   (0x33BA, [0x70, 0x57]), (0x33BB, [0x6E, 0x57]), (0x33BC, [0x3BC, 0x57]),
   (0x33BD, [0x6D, 0x57]), (0x33BE, [0x6B, 0x57]), (0x33BF, [0x4D, 0x57]),
   (0x33C0, [0x6B, 0x3A9]), (0x33C1, [0x4D, 0x3A9]), (0x33C2, [0x61, 0x2E, 0x6D, 0x2E]),
   (0x33C3, [0x42, 0x71]), (0x33C4, [0x63, 0x63]), (0x33C5, [0x63, 0x64]),
   (0x33C6, [0x43, 0x2215, 0x6B, 0x67]), (0x33C7, [0x43, 0x6F, 0x2E]), (0x33C8, [0x64, 0x42]),
   (0x33C9, [0x47, 0x79]), (0x33CA, [0x68, 0x61]), (0x33CB, [0x48, 0x50]),
   (0x33CC, [0x69, 0x6E]), (0x33CD, [0x4B, 0x4B]), (0x33CE, [0x4B, 0x4D]),
   (0x33CF, [0x6B, 0x74]), (0x33D0, [0x6C, 0x6D]), (0x33D1, [0x6C, 0x6E]),
   (0x33D2, [0x6C, 0x6F, 0x67]), (0x33D3, [0x6C, 0x78]), (0x33D4, [0x6D, 0x62]),
   (0x33D5, [0x6D, 0x69, 0x6C]), (0x33D6, [0x6D, 0x6F, 0x6C]), (0x33D7, [0x50, 0x48]),
   (0x33D8, [0x70, 0x2E, 0x6D, 0x2E]), (0x33D9, [0x50, 0x50, 0x4D]), (0x33DA, [0x50, 0x52]),
   (0x33DB, [0x73, 0x72]), (0x33DC, [0x53, 0x76]), (0x33DD, [0x57, 0x62]),
   (0x33DE, [0x56, 0x2215, 0x6D]), (0x33DF, [0x41, 0x2215, 0x6D]), (0x33E0, [0x31, 0x65E5]),
   (0x33E1, [0x32, 0x65E5]), (0x33E2, [0x33, 0x65E5]), (0x33E3, [0x34, 0x65E5]),
   (0x33E4, [0x35, 0x65E5]), (0x33E5, [0x36, 0x65E5]), (0x33E6, [0x37, 0x65E5]),
   (0x33E7, [0x38, 0x65E5]), (0x33E8, [0x39, 0x65E5]), (0x33E9, [0x31, 0x30, 0x65E5]),
   (0x33EA, [0x31, 0x31, 0x65E5]), (0x33EB, [0x31, 0x32, 0x65E5]),
   (0x33EC, [0x31, 0x33, 0x65E5]), (0x33ED, [0x31, 0x34, 0x65E5]),
   (0x33EE, [0x31, 0x35, 0x65E5]), (0x33EF, [0x31, 0x36, 0x65E5]),
   (0x33F0, [0x31, 0x37, 0x65E5]), (0x33F1, [0x31, 0x38, 0x65E5]),
   (0x33F2, [0x31, 0x39, 0x65E5]), (0x33F3, [0x32, 0x30, 0x65E5]),
   (0x33F4, [0x32, 0x31, 0x65E5]), (0x33F5, [0x32, 0x32, 0x65E5]),
   (0x33F6, [0x32, 0x33, 0x65E5]), (0x33F7, [0x32, 0x34, 0x65E5]),
   (0x33F8, [0x32, 0x35, 0x65E5]), (0x33F9, [0x32, 0x36, 0x65E5]),
   (0x33FA, [0x32, 0x37, 0x65E5]), (0x33FB, [0x32, 0x38, 0x65E5]),
   (0x33FC, [0x32, 0x39, 0x65E5]), (0x33FD, [0x33, 0x30, 0x65E5]),
   (0x33FE, [0x33, 0x31, 0x65E5]), (0x33FF, [0x67, 0x61, 0x6C])]

/-- Further modifier letters, U+A000 to U+ABFF. -/
def raisedMore : List Decomposition :=
  [(0xA69C, [0x44A]), (0xA69D, [0x44C]), (0xA770, [0xA76F]), (0xA7F2, [0x43]), (0xA7F3, [0x46]),
   (0xA7F4, [0x51]), (0xA7F8, [0x126]), (0xA7F9, [0x153]), (0xAB5C, [0xA727]),
   (0xAB5D, [0xAB37]), (0xAB5E, [0x26B]), (0xAB5F, [0xAB52]), (0xAB69, [0x28D])]

end Permalink.Text

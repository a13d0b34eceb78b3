import Lexis.Text.Runs

/-!
# Ages

The version of Unicode in which each code point was assigned: `A` for the first of the versions, and
so on, and `Z` for a code point that was not assigned up to version 15.0.
-/

namespace Lexis.Text

/-- The code points by their version. -/
def ageRuns : List Run :=
  runs
    ["A502D4A30D8FGD18G3H11I14A89D5G2A47DA10D5G17A70D9FG8H5G3A2DF13J4A2J2Z2AI3APZ4A7ZAZA20ZA44JA7D",
     "F2ADADADADA18E2FG5H4DA12DA66DA12DA41JD2F2D4A53F2A2F2A2F2IA28D2A8H2A2I6F16I4J16K2L2P8ZA38Z2A7",
     "TA39TADZ2P2MZB17HB13A10IA9BH3Z8A27Z4TA5Z11G4MPJ5HAG9J5AOXHALA26J5A19D3G3H6LA14F2A72D2A5DA15D",
     "A30G2A10D5GD14ZD30G3D27Z2G3H30J18D49FZ14I59Z2T3K46Z2K15ZL28Z2LZS11Z5X31ZX2Z6X8MPM11P6Q2XR8W1",
     "0X11TR15QM27PKA3GA53L2A18KLA5KL2A25J2L5PK2I2HI2PA3ZA8Z2A2Z2A22ZA7ZAZ3A4Z2AGA7Z2A2Z2A3HZ8AZ4A",
     "2ZA5Z2A21KS2TZ2GAGZA6Z4A2Z2A22ZA7ZA2ZA2ZA2Z2AZA5Z4A2Z2A3Z3JZ7A4ZAZ7A15JTZ10A3ZA7GAZA3ZA22ZA7",
     "ZA2ZA5Z2A10ZA3ZA3Z2AZ15AG3Z2A10MGZ7QS6ZA3ZA8Z2A2Z2A22ZA7ZA2ZGA4Z2A8JZ2A2Z2A3Z7WA2Z4A2ZA3J2Z2",
     "A11GL6Z10A2ZA6Z3A3ZA4Z3A2ZAZA2Z3A2Z3A3Z3A8HA3Z4A5Z3A3ZA4Z2JZ6AZ14HA12G8Z5PA3TA8ZA3ZA23ZA10PA",
     "5Z2XJA7ZA3ZA4Z7A2ZJ2QZ2XZ2A2J2Z2A10Z7UJ8RPA2TA8ZA3ZA23ZA10ZA5Z2G2A7ZA3ZA4Z7A2Z6XAZA2I2Z2A10Z",
     "I2YZ12SPA2WA8ZA3ZA23LA16LS2JA6JZA3ZA4LRZ4R3AR7QA2J2Z2A10J6R3J7ZWD2ZD18Z3D24ZD9ZDZ2D7Z3DZ4D6Z",
     "DZD8Z6P10Z2D3Z12A58Z4A29Z37A2ZAZUA2UAZUAU6A4UA7UA3ZAZAU2A2UA13UA3Z2A5ZAZA6YZA10Z2A2M2Z32B72Z",
     "B33DJ2Z4B27L4B6DBZB21D3B7DBD3ZD15ZJDH2J3K4L2Z37D34JD5JD2JD7J3D4J6D26J64K4J2A38ZMZ5MZ2A39F2H2",
     "AHM3A90K5A68K5A82K6D7HD63HDZD4Z2D7ZDZD4Z2D39HDZD4Z2D31HDZD4Z2D7ZDZD4Z2D7HD7ZD23HD31HDZD4Z2D7",
     "HD39HD19Z2L2H2D28Z3H26Z6D85QZ2Q6Z2KD630K9D29Z3D81P8Z7F13XF7XZ9XF23Z9F20Z12F13ZF3ZF2Z12D93GZ2",
     "D10Z6G10Z6D15XD10Z6D88TZ7D42JZ5K70Z10G29P2ZG12Z4G12Z4GZ3G42Z2G5Z11H42K2Z4H26Z6H10KZ3H2G32H28",
     "Z2H2K63ZK29Z2K11Z6K10Z6K14Z2P15W2X14Z49I76XZ3I45X2ZJ43M3J12M6L52Z8L4J56Z3J15Z3J51R9Z7T43Z2T3",
     "M8Z8K35M4SP2UZ5G108H88I7J28P15S4XRLKI2A155BJ4A90J6A22Z2A6Z2A38Z2A6Z2A8ZAZAZAZA31Z2A53ZA15ZA1",
     "4Z2A6ZA19Z2A3ZA9ZA47DA23FD6F5G2H2FH7F5JZO4A7FZ2A27ZH5L8Z3A11BCD3F2H4K3LNP3QSXZ15A18D2F7HI4JZ",
     "15A57D2GHF15HI2JK3A48DIJ4KQ2Z4A91D9F12A242F14ADA121DFD30F52G2H11I12KL11P7R4SA37D2Z25A11Z21A1",
     "39F20GA150F10A80D8F8A20G2F2HDA86D2F12H2F10G8H11JK2G2H16IJ10K3J4K10LK19LKL4K24PA4LA4L2A28LA35",
     "LALA4L3AKA7L2A7F14A31L3A24LA14LH7I4MJML2F28J4F16D256F512G14H6I7J5I4J41P3J5K5P26Z2P32ZWP34T3P",
     "12UP8ST25Q4T15UH47XH47XI13J3KJ3I4J6K2H107K7M2Z5H45ZMZ5MZ2H54M2Z7HLZ14LH23Z9H7ZH7ZH7ZH7ZH7ZH7",
     "ZH7ZH7ZJ32H24J4H2J19KM10P7R2S5T5UW3X11Z34D26ZD89Z12D214Z26D12Z4A56D3F3DAZA84F2Z2A6F2A94FZ5A4",
     "0JSTZA94ZA16D24L3W5H16J20Z12F16A29G2ZA36K12GF15A28G2HA50F15A12G4A47VA119G4A99G2A31GD6582W10G",
     "64A20902H22J8K8MQ9S21T5W13X3D1165Z3D18F2D16FD12FD3FDZ9K48J300Z20J32L2J18M8J28P6QMK88Z8H23I4J",
     "5I2J107L2QL2M2P12L10MP3RTP2Q6T2U6X2U5W4Z5X2ZXZX5Z24X3W2PM2LJ5H44WZ3K10Z6I56Z8J69RZ8J12Z6K28Q",
     "2T2J84Z11JK29Z3K78ZK11Z4K2P31ZJ55Z9J14Z2J10Z2J4K28P4K67Z24K5M23Z10L6Z2L6Z2L6Z9L7ZL7ZP48Q4P2U",
     "2W4Z4Q80K46Z2K10Z6B11172Z12K23Z4K49Z4B2048A6702M2F59K3Z2H106Z38A7Z12A5Z5DA25ZA5ZAZA2ZA2ZA108",
     "L16XZ16A365X16A64Z2A54Z7XE32A12FGX2F16H10Z6A4J3P7Q2A21F2G2A10ZA19ZA4Z4A3FAZA135Z2AZA94F2A94Z",
     "3A6Z2A6Z2A6Z2A3Z3A7ZA7Z10D3CA3G12ZG26ZG19ZG2ZG15Z2G14Z34G123Z5G3Z4G45Z3G9H75P2R2ZJ12WZ3PZ47J",
     "46Z130J29Z3J49Z15P28Z4E31PE4Z9S3E27Z5P43Z5G30ZGH36Z4H14Z42E38G2E38G80Z2G10Z6R36Z4R36Z4P40Z8P",
     "52Z11PX11ZX15ZX7ZX2ZX11ZX15ZX7ZX2Z67P311Z9P22Z10P8Z24X6ZX42ZX9Z69G6Z2GZG44ZG2Z3GZ2GK22ZK9P63",
     "Z8P9Z48Q19ZQ2Z5Q5I26K2Z3IJ26Z5JZ64M56Z4Q2M2Q16Z2Q46H4ZH2Z5H8ZH3ZH27T2Z2H3Z4H9TZ7H9Z7K32P32Z3",
     "2P39Z4P12Z9K54Z3K29Z2K27Z5K8P18Z7P4Z12P7Z80K73Z55Q51Z13Q51Z7Q6T40Z8T10Z294K31ZW42ZW3Z2W2Z75Y",
     "3T40Z8T42Z22X26Z38W28Z20U23Z9L78Z4L30X6Z9PK66XZ10TZ2M25Z7M10Z6M53ZM14T3WZ8P39Z9M73Q4PW2M10PQ",
     "5ZP20Z11P18ZP43RY3Z62Q7ZQZQ4ZQ15ZQ11Z6P59Z5P10Z6QP3ZP8Z2P2Z2P22ZP7ZP2ZP5ZTP9Z2P2Z2P3Z2QZ6PZ5",
     "P7Z2P7Z3P5Z139R90WRZRTUW2Z30P72Z8P10Z166P54Z2P18Q20Z34P69Z11P10Z6R13Z19M56UXZ6M10Z54Q26TZ2Q1",
     "5Z4Q16X7Z185T60Z100P83Z12PW7Z2WZ2W8ZW2ZW30ZW2Z2W12Z9W10Z70U8Z2U46Z2U11Z27S72Z8S52U2S23TS5Z13",
     "X16P57Z7Y10Z246R9ZR45ZR14Z10R29Z3R32Z2R22ZR14Z73S7ZS2ZS44Z3SZS2ZS9Z8S10Z6T6ZT2ZT37ZT2ZT6Z7T1",
     "0Z310T25Z7Y17ZY41Z3Y28Z86WZ15U50Z13UI879P42QZ102I99P12ZI4PZ11Q196Z2636X99Z13K1071YU9Y29Z4010",
     "Q583Z8633L569Z7P31ZP10Z4P2X79ZX10Z6P30Z2P6Z10P70Z10P10ZP7ZP21Z5P19Z688T91Z101M69U6Z4UM47U9Z7",
     "M17Z64RSU2WZ11W2Z14R6125T5U6Z8R755W483Z42W9Z8935X4ZX7ZX2ZL2S285X4Z15YZ29U3Z2YZ14U4Z8S396Z230",
     "8P107Z5P13Z3P9Z7P10Z2P8Z4700X46Z2X23Z9X116Z60E246Z10E39Z2JE180Q11X2Z21H70Z122Y20Z12T20Z12G87",
     "Z9I18T7Z135E85ZE71ZE2Z2EZ2E2Z2E4ZE12ZEZE4GE2ZE65ZE4Z2E8ZE7ZE28ZE4ZE5ZEZ3E7ZE338H2Z2E290I2Z2E",
     "50Q652Z15Q5ZQ15Z1104X31Z6Y6Z213R7ZR17Z2R7ZR2ZR5Z5Y62Z33YZ112U45Z3U14Z2U10Z4U2Z320X31Z17U58Z5",
     "UZ464Y42Z742X7ZX4ZX2ZX15ZP197Z2P16Z41R75UZ4R10Z4R2Z785T68Z76U61Z194M4ZM27ZM2ZMZ2MZM10ZM4ZMZM",
     "Z6MZ4MZMZMZM3ZM2ZMZ2MZMZMZMZMZM2ZMZ2M4ZM7ZM4ZM4ZMZM10ZM17Z5M3ZM5ZM17Z52M2Z270J44Z4J100Z12L15",
     "Z2L14PZL15ZL15P22Z10K11P2W3K31TLKL11KLKL2KL3KL3K5L8KL7KL10M2UW3L9KLK2L2KL10K4L2KL10R18WZ56L2",
     "6KL2Z13K34L9RZ4K9Z7L2Z14S6Z154L33P12Q3L6PL70PQ2L20P12L37PL5P4Q5P12L17P7Q8L63PLPL182PL4P2QL62",
     "P2M4P7Q5L24P18RP41RP86L5ML16ML3MLMLMLML3ML6M2L4MLM2L4ML12P2Q2L11P48L70P10QR2S2UW2Z4YX3P13Z3P",
     "4R3S2TUW2Z3L116Y3Z4Y5P85T4YZ6U12Z4XZ15P12Z4P56Z8P10Z6P40Z8P30Z2W2Z78S12WU3Q9R6SR8S8RS2R12UR1",
     "2ST3R15S13T5UWT4W2XTUT4Q5R13S6T11W2U6W3U2T10U6QT2U8WXU3S23T25U84Z12T14Z2U4WY3U3X2Z3U3W4Y2Z7U",
     "6W19X4Y3W7X4Y3ZYW3X3Z8Y2W7X3Y2Z4X8YZ7X7Y2Z7W147ZW55Z37W10Z1028B2E42711W7X2Z32K4149X4YZ6L222Z",
     "2Q5762Z14S7473Z3103E542Z1504B2W4939Z5Y4192Z56398B2Z65534B2Z65534B2Z65534B2Z65534B2Z65534B2Z6",
     "5534B2Z65534B2Z65534B2Z65534B2Z65534B2ZEZ30E96Z128G240Z65038B131074"]

/-- The versions, each with its names in normal form. -/
def ages : List (List String) :=
  [["1.1", "v11"], ["2.0", "v20"], ["2.1", "v21"], ["3.0", "v30"], ["3.1", "v31"], ["3.2", "v32"],
   ["4.0", "v40"], ["4.1", "v41"], ["5.0", "v50"], ["5.1", "v51"], ["5.2", "v52"], ["6.0", "v60"],
   ["6.1", "v61"], ["6.2", "v62"], ["6.3", "v63"], ["7.0", "v70"], ["8.0", "v80"], ["9.0", "v90"],
   ["10.0", "v100"], ["11.0", "v110"], ["12.0", "v120"], ["12.1", "v121"], ["13.0", "v130"],
   ["14.0", "v140"], ["15.0", "v150"]]

end Lexis.Text

import Mathlib.Data.List.Basic

/-!
# The instance types of EC2

`ec2_instance_types.go`, generated once from what AWS offered then. Its keys are the
names in the entries.
-/

namespace AutoNodeRepair

/-- `instanceType`. -/
structure InstanceType where
  instanceType : String
  vcpu : Int
  memoryMb : Int
  gpu : Int
  deriving DecidableEq, Repr

/-- `InstanceTypes`. -/
def instanceTypes : List InstanceType :=
  [⟨"c1.medium", 2, 1740, 0⟩,
   ⟨"c1.xlarge", 8, 7168, 0⟩,
   ⟨"c3", 32, 0, 0⟩,
   ⟨"c3.2xlarge", 8, 15360, 0⟩,
   ⟨"c3.4xlarge", 16, 30720, 0⟩,
   ⟨"c3.8xlarge", 32, 61440, 0⟩,
   ⟨"c3.large", 2, 3840, 0⟩,
   ⟨"c3.xlarge", 4, 7680, 0⟩,
   ⟨"c4", 36, 0, 0⟩,
   ⟨"c4.2xlarge", 8, 15360, 0⟩,
   ⟨"c4.4xlarge", 16, 30720, 0⟩,
   ⟨"c4.8xlarge", 36, 61440, 0⟩,
   ⟨"c4.large", 2, 3840, 0⟩,
   ⟨"c4.xlarge", 4, 7680, 0⟩,
   ⟨"cc1.4xlarge", 16, 23552, 0⟩,
   ⟨"cc2.8xlarge", 32, 61952, 0⟩,
   ⟨"cg1.4xlarge", 16, 23040, 0⟩,
   ⟨"cr1.8xlarge", 32, 249856, 0⟩,
   ⟨"d2", 36, 0, 0⟩,
   ⟨"d2.2xlarge", 8, 62464, 0⟩,
   ⟨"d2.4xlarge", 16, 124928, 0⟩,
   ⟨"d2.8xlarge", 36, 249856, 0⟩,
   ⟨"d2.xlarge", 4, 31232, 0⟩,
   ⟨"f1", 64, 0, 0⟩,
   ⟨"f1.16xlarge", 64, 999424, 0⟩,
   ⟨"f1.2xlarge", 8, 124928, 0⟩,
   ⟨"g2", 32, 0, 4⟩,
   ⟨"g2.2xlarge", 8, 15360, 1⟩,
   ⟨"g2.8xlarge", 32, 61440, 4⟩,
   ⟨"g3", 64, 0, 4⟩,
   ⟨"g3.16xlarge", 64, 499712, 4⟩,
   ⟨"g3.4xlarge", 16, 124928, 1⟩,
   ⟨"g3.8xlarge", 32, 249856, 2⟩,
   ⟨"hi1.4xlarge", 16, 61952, 0⟩,
   ⟨"hs1.8xlarge", 17, 119808, 0⟩,
   ⟨"i2", 32, 0, 0⟩,
   ⟨"i2.2xlarge", 8, 62464, 0⟩,
   ⟨"i2.4xlarge", 16, 124928, 0⟩,
   ⟨"i2.8xlarge", 32, 249856, 0⟩,
   ⟨"i2.xlarge", 4, 31232, 0⟩,
   ⟨"i3", 64, 0, 0⟩,
   ⟨"i3.16xlarge", 64, 499712, 0⟩,
   ⟨"i3.2xlarge", 8, 62464, 0⟩,
   ⟨"i3.4xlarge", 16, 124928, 0⟩,
   ⟨"i3.8xlarge", 32, 249856, 0⟩,
   ⟨"i3.large", 2, 15616, 0⟩,
   ⟨"i3.xlarge", 4, 31232, 0⟩,
   ⟨"m1.large", 2, 7680, 0⟩,
   ⟨"m1.medium", 1, 3840, 0⟩,
   ⟨"m1.small", 1, 1740, 0⟩,
   ⟨"m1.xlarge", 4, 15360, 0⟩,
   ⟨"m2.2xlarge", 4, 35020, 0⟩,
   ⟨"m2.4xlarge", 8, 70041, 0⟩,
   ⟨"m2.xlarge", 2, 17510, 0⟩,
   ⟨"m3", 8, 0, 0⟩,
   ⟨"m3.2xlarge", 8, 30720, 0⟩,
   ⟨"m3.large", 2, 7680, 0⟩,
   ⟨"m3.medium", 1, 3840, 0⟩,
   ⟨"m3.xlarge", 4, 15360, 0⟩,
   ⟨"m4", 40, 0, 0⟩,
   ⟨"m4.10xlarge", 40, 163840, 0⟩,
   ⟨"m4.16xlarge", 64, 262144, 0⟩,
   ⟨"m4.2xlarge", 8, 32768, 0⟩,
   ⟨"m4.4xlarge", 16, 65536, 0⟩,
   ⟨"m4.large", 2, 8192, 0⟩,
   ⟨"m4.xlarge", 4, 16384, 0⟩,
   ⟨"p2", 64, 0, 16⟩,
   ⟨"p2.16xlarge", 64, 786432, 16⟩,
   ⟨"p2.8xlarge", 32, 499712, 0⟩,
   ⟨"p2.xlarge", 4, 62464, 0⟩,
   ⟨"r3", 32, 0, 0⟩,
   ⟨"r3.2xlarge", 8, 62464, 0⟩,
   ⟨"r3.4xlarge", 16, 124928, 0⟩,
   ⟨"r3.8xlarge", 32, 249856, 0⟩,
   ⟨"r3.large", 2, 15616, 0⟩,
   ⟨"r3.xlarge", 4, 31232, 0⟩,
   ⟨"r4", 64, 0, 0⟩,
   ⟨"r4.16xlarge", 64, 499712, 0⟩,
   ⟨"r4.2xlarge", 8, 62464, 0⟩,
   ⟨"r4.4xlarge", 16, 124928, 0⟩,
   ⟨"r4.8xlarge", 32, 249856, 0⟩,
   ⟨"r4.large", 2, 15616, 0⟩,
   ⟨"r4.xlarge", 4, 31232, 0⟩,
   ⟨"t1.micro", 1, 627, 0⟩,
   ⟨"t2.2xlarge", 8, 32768, 0⟩,
   ⟨"t2.large", 2, 8192, 0⟩,
   ⟨"t2.medium", 2, 4096, 0⟩,
   ⟨"t2.micro", 1, 1024, 0⟩,
   ⟨"t2.nano", 1, 512, 0⟩,
   ⟨"t2.small", 1, 2048, 0⟩,
   ⟨"t2.xlarge", 4, 16384, 0⟩,
   ⟨"x1", 128, 0, 0⟩,
   ⟨"x1.16xlarge", 64, 999424, 0⟩,
   ⟨"x1.32xlarge", 128, 1998848, 0⟩]

/-- `InstanceTypes[name]`; a name that is not listed gives the nil pointer. -/
def lookUpInstanceType (name : String) : Option InstanceType :=
  instanceTypes.find? (·.instanceType = name)

end AutoNodeRepair

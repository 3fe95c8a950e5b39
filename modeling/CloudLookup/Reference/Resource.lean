/-! The kinds of resources that a reference can name. -/
namespace CloudLookup

inductive Resource where
  | cacheCluster
  | searchDomain
  | stream
  | table
  | dbInstance
  | network
  deriving DecidableEq, Repr

namespace Resource

def all : List Resource := [cacheCluster, searchDomain, stream, table, dbInstance, network]

def tag : Resource → String
  | cacheCluster => "ecs"
  | searchDomain => "ess"
  | stream => "kinesis"
  | table => "dynamodb"
  | dbInstance => "rds"
  | network => "ec2"

def ofTag? (tag : String) : Option Resource := all.find? fun r => r.tag == tag

theorem ofTag?_tag (r : Resource) : ofTag? r.tag = some r := by cases r <;> rfl

def tags : List String := all.map tag

end Resource

end CloudLookup
